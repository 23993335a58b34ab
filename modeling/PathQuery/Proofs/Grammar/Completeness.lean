import PathQuery.Proofs.Grammar.Reading
import PathQuery.Proofs.Grammar.Unambiguity

namespace PathQuery

open PartialQuery

def OpenPath.extend (p : OpenPath) (segments : List Segment) : OpenPath :=
  segments.foldl OpenPath.push p

def OpenGroup.extend (g : OpenGroup) (operands : List Query) : OpenGroup :=
  operands.foldl OpenGroup.push g

def OpenCall.extend (c : OpenCall) (arguments : List Argument) : OpenCall :=
  arguments.foldl OpenCall.push c

theorem OpenPath.extend_eq (p : OpenPath) (segments : List Segment) :
    p.extend segments = ⟨p.context, p.origin, segments.reverse ++ p.segments⟩ := by
  induction segments generalizing p with
  | nil => cases p; rfl
  | cons s segments ih => simpa [extend, push] using ih (p.push s)

theorem OpenGroup.extend_eq (g : OpenGroup) (operands : List Query) :
    g.extend operands = ⟨g.context, g.operator, g.isExplicit, operands.reverse ++ g.operands⟩ := by
  induction operands generalizing g with
  | nil => cases g; rfl
  | cons q operands ih => simpa [extend, push] using ih (g.push q)

theorem OpenCall.extend_eq (c : OpenCall) (arguments : List Argument) :
    c.extend arguments = ⟨c.path, c.callee, arguments.reverse ++ c.arguments⟩ := by
  induction arguments generalizing c with
  | nil => cases c; rfl
  | cons a arguments ih => simpa [extend, push] using ih (c.push a)

namespace Grammar

-- The paths in a group that stands in the context have the role.
structure GroupFits (c : GroupContext) (role : Role) : Prop where
  inFilter : c.inFilter = role.inFilter
  asPredicate : role.asPredicate = true

theorem GroupFits.operand {g : OpenGroup} {role : Role} (h : GroupFits g.context role) :
    GroupFits (.operand g) role := by
  obtain ⟨context, _, _, _⟩ := g
  exact ⟨by simpa [GroupContext.inFilter] using h.inFilter, h.asPredicate⟩

theorem reading?_named {p : OpenPath} {name : String} {ts : List Token} (hne : ts ≠ [])
    (h : ts.head? ≠ some (.rune '(')) :
    (PartialQuery.named p name).reading? ts =
      (PartialQuery.path (p.push (.field name))).reading? ts := by
  cases ts with
  | nil => contradiction
  | cons t ts =>
    have ht : (PartialQuery.named p name).next? t =
        (PartialQuery.path (p.push (.field name))).next? t := by
      simp only [next?, step]
      split
      · simp at h
      · rfl
    rw [reading?_cons, reading?_cons, ht]

theorem next?_path {p : OpenPath} {t : Token} (ht : ¬(t = .rune '.' ∨ t = .rune '[')) :
    (PartialQuery.path p).next? t = (closePath p).next? t := by
  have hs : stepPath p ⟨t, .start⟩ = stepComplete (closePath p) ⟨t, .start⟩ := by
    unfold stepPath
    split
    · next hp => exact absurd (.inl hp) ht
    · next hp => exact absurd (.inr hp) ht
    · rfl
  rw [next?, next?, step, hs]
  obtain ⟨context, _, _⟩ := p
  cases context <;> rfl

theorem reading?_closePath {p : OpenPath} {ts : List Token} (hne : ts ≠ []) (h : EndsPath ts) :
    (PartialQuery.path p).reading? ts = (closePath p).reading? ts := by
  cases ts with
  | nil => contradiction
  | cons t ts =>
    have ht : (PartialQuery.path p).next? t = (closePath p).next? t :=
      next?_path (by simp_all [EndsPath])
    rw [reading?_cons, reading?_cons, ht]

theorem reading?_parenthesis {c : OpenCall} {ts : List Token} (hne : ts ≠ [])
    (h : ∀ us, ts ≠ .rune ')' :: us) :
    (PartialQuery.parenthesis c).reading? ts = (PartialQuery.argumentComma c).reading? ts := by
  cases ts with
  | nil => contradiction
  | cons t ts =>
    have ht : (PartialQuery.parenthesis c).next? t = (PartialQuery.argumentComma c).next? t := by
      simp only [next?, step]
      split
      · exact absurd rfl (h ts)
      · rfl
    rw [reading?_cons, reading?_cons, ht]

theorem reading?_brace {c : GroupContext} {ts : List Token} (hne : ts ≠ [])
    (h : ∀ word us, ts ≠ .ident word :: us) :
    (PartialQuery.brace c).reading? ts =
      (PartialQuery.operandComma (emptyGroup c)).reading? ts := by
  cases ts with
  | nil => contradiction
  | cons t ts =>
    have ht : (PartialQuery.brace c).next? t =
        (PartialQuery.operandComma (emptyGroup c)).next? t := by
      simp only [next?, step]
      split
      · next word => exact absurd rfl (h word ts)
      · rfl
    rw [reading?_cons, reading?_cons, ht]

mutual

theorem SegmentsDerivation.reading? : ∀ (s : SegmentsDerivation) (p : OpenPath) {ts : List Token},
    ts ≠ [] → EndsPath ts →
    (PartialQuery.path p).reading? (s.tokens ++ ts) =
      (PartialQuery.path (p.extend s.trees)).reading? ts
  | .nil, _, _, _, _ => rfl
  | .cons first rest, p, ts, hne, h => by
    rw [SegmentsDerivation.tokens, List.append_assoc,
      SegmentDerivation.reading? first p (by simp [hne]) (rest.head_ne_paren h),
      SegmentsDerivation.reading? rest _ hne h]
    rfl
termination_by structural x => x

theorem SegmentDerivation.reading? : ∀ (s : SegmentDerivation) (p : OpenPath) {ts : List Token},
    ts ≠ [] → ts.head? ≠ some (.rune '(') →
    (PartialQuery.path p).reading? (s.tokens ++ ts) =
      (PartialQuery.path (p.push s.tree)).reading? ts
  | .field name, p, ts, hne, h => by
    simp only [SegmentDerivation.tokens, List.cons_append, List.nil_append, reading?_cons,
      next?_path_dot, next?_dot_ident, Option.bind_some]
    exact reading?_named hne h
  | .emptyCall name, p, ts, _, _ => rfl
  | .call name arguments, p, ts, _, _ => by
    simp only [SegmentDerivation.tokens, List.cons_append, List.append_assoc, List.nil_append,
      reading?_cons, next?_path_dot, next?_dot_ident, next?_named_paren, Option.bind_some]
    rw [reading?_parenthesis (by simp) (arguments.tokens_ne_paren _),
      ArgumentsDerivation.reading? arguments]
    simp [OpenCall.extend_eq, OpenCall.close, SegmentDerivation.tree]
  | .filter (.path (.mk origin allowed segments)), p, ts, _, _ => by
    cases origin with
    | root => simp [Role.inFilter] at allowed
    | current =>
      simp only [SegmentDerivation.tokens, OperandDerivation.tokens, PathDerivation.tokens,
        List.cons_append, List.append_assoc, List.nil_append, reading?_cons, next?_path_bracket,
        Option.bind_some, originToken]
      change (startPath (.filter p) .current).reading? _ = _
      rw [startPath, SegmentsDerivation.reading? segments _ (by simp) (endsPath_bracket _),
        reading?_closePath (by simp) (endsPath_bracket _)]
      simp [closePath, OpenPath.extend_eq, reading?_cons, SegmentDerivation.tree,
        OperandDerivation.predicate, OpenPath.toPath, PathDerivation.tree, PathContext.inFilter,
        PathContext.asPredicate, Role.inFilter, Role.asPredicate]
  | .filter (.group (.mk word? operands)), p, ts, _, _ => by
    have hg := GroupDerivation.reading? (.mk word? operands) (.filter p) ⟨rfl, rfl⟩
      (.rune ']' :: ts)
    rw [GroupDerivation.tokens, List.cons_append, List.tail_cons] at hg
    simp only [SegmentDerivation.tokens, OperandDerivation.tokens, GroupDerivation.tokens,
      List.cons_append, List.append_assoc, List.nil_append, reading?_cons, next?_path_bracket,
      next?_bracket_brace, Option.bind_some] at hg ⊢
    simp [hg, closeGroup, OpenGroup.toGroup, GroupDerivation.tree, SegmentDerivation.tree,
      OperandDerivation.predicate]
termination_by structural x => x

theorem ArgumentsDerivation.reading? : ∀ (a : ArgumentsDerivation) (c : OpenCall) {ts : List Token},
    (PartialQuery.argumentComma c).reading? (a.tokens ++ .rune ')' :: ts) =
      (PartialQuery.path (c.extend a.trees).close).reading? ts
  | .one a, c, ts => by
    rw [ArgumentsDerivation.tokens,
      ArgumentDerivation.reading? a c (by simp) (endsPath_paren ts)]
    rfl
  | .more a rest, c, ts => by
    rw [ArgumentsDerivation.tokens, List.append_assoc,
      List.cons_append, ArgumentDerivation.reading? a c (by simp) (endsPath_comma _), reading?_cons,
      next?_argument_comma, Option.bind_some, ArgumentsDerivation.reading? rest]
    rfl
termination_by structural x => x

theorem ArgumentDerivation.reading? : ∀ (a : ArgumentDerivation) (c : OpenCall) {ts : List Token},
    ts ≠ [] → EndsPath ts →
    (PartialQuery.argumentComma c).reading? (a.tokens ++ ts) =
      (PartialQuery.argument (c.push a.tree)).reading? ts
  | .number text value h, c, ts, _, _ => by
    simp [ArgumentDerivation.tokens, reading?_cons, next?, step, stepArgument, h,
      Except.toOption, ArgumentDerivation.tree]
  | .string s, c, ts, _, _ => rfl
  | .bool b, c, ts, _, _ => by cases b <;> rfl
  | .path (.mk origin allowed segments), c, ts, hne, h => by
    have hs : (PartialQuery.argumentComma c).next? (originToken origin) =
        some (startPath (.argument c) origin) := by cases origin <;> rfl
    rw [ArgumentDerivation.tokens, PathDerivation.tokens, List.cons_append, reading?_cons, hs,
      Option.bind_some, startPath, SegmentsDerivation.reading? segments _ hne h,
      reading?_closePath hne h]
    simp [closePath, OpenPath.extend_eq, ArgumentDerivation.tree, OpenPath.toPath,
      PathDerivation.tree, PathContext.inFilter, PathContext.asPredicate, Role.inFilter,
      Role.asPredicate]
termination_by structural x => x

theorem OperandDerivation.reading? {role : Role} :
    ∀ (o : OperandDerivation role) (g : OpenGroup), GroupFits g.context role →
    ∀ {ts : List Token}, ts ≠ [] → EndsPath ts →
    (PartialQuery.operandComma g).reading? (o.tokens ++ ts) =
      (PartialQuery.operand (g.push o.tree)).reading? ts
  | .path (.mk origin allowed segments), g, hg, ts, hne, h => by
    have hs : (PartialQuery.operandComma g).next? (originToken origin) =
        some (startPath (.operand g) origin) := by
      cases origin with
      | current => rfl
      | root => simp [next?, step, stepOperand, originToken, hg.inFilter, allowed, Except.toOption]
    rw [OperandDerivation.tokens, PathDerivation.tokens, List.cons_append, reading?_cons, hs,
      Option.bind_some, startPath, SegmentsDerivation.reading? segments _ hne h,
      reading?_closePath hne h]
    simp [closePath, OpenPath.extend_eq, OperandDerivation.tree, OpenPath.toPath,
      PathDerivation.tree, PathContext.inFilter, PathContext.asPredicate, hg.inFilter,
      hg.asPredicate]
  | .group (.mk word? operands), g, hg, ts, _, _ => by
    have hr := GroupDerivation.reading? (.mk word? operands) (.operand g) hg.operand ts
    rw [OperandDerivation.tokens, GroupDerivation.tokens, List.cons_append, reading?_cons,
      next?_operandComma_brace, Option.bind_some]
    rw [GroupDerivation.tokens, List.cons_append, List.tail_cons] at hr
    rw [hr]
    simp [closeGroup, OpenGroup.toGroup, GroupDerivation.tree, OperandDerivation.tree]
termination_by structural x => x

theorem OperandsDerivation.reading? {role : Role} :
    ∀ (o : OperandsDerivation role) (g : OpenGroup), GroupFits g.context role →
    ∀ {ts : List Token},
    (PartialQuery.operandComma g).reading? (o.tokens ++ .rune '\x7d' :: ts) =
      (closeGroup (g.extend o.trees)).reading? ts
  | .one o, g, hg, ts => by
    rw [OperandsDerivation.tokens,
      OperandDerivation.reading? o g hg (by simp) (endsPath_brace ts)]
    rfl
  | .more o rest, g, hg, ts => by
    rw [OperandsDerivation.tokens, List.append_assoc, List.cons_append,
      OperandDerivation.reading? o g hg (by simp) (endsPath_comma _), reading?_cons,
      next?_operand_comma, Option.bind_some, OperandsDerivation.reading? rest (g.push o.tree) hg]
    rfl
termination_by structural x => x

theorem GroupDerivation.reading? {role : Role} :
    ∀ (g : GroupDerivation role) (c : GroupContext), GroupFits c role → ∀ (ts : List Token),
    (PartialQuery.brace c).reading? (g.tokens ++ ts).tail =
      (closeGroup ⟨c, g.tree.operator, g.tree.isExplicit, g.tree.operands.reverse⟩).reading? ts
  | .mk none operands, c, hc, ts => by
    rw [GroupDerivation.tokens, wordTokens, List.cons_append, List.tail_cons, List.nil_append,
      List.append_assoc, List.singleton_append,
      reading?_brace (by simp) (fun word us => operands.tokens_ne_ident word _ us),
      OperandsDerivation.reading? operands (emptyGroup c) hc]
    simp [OpenGroup.extend_eq, emptyGroup, GroupDerivation.tree, operatorOf]
  | .mk (some word) operands, c, hc, ts => by
    simp only [GroupDerivation.tokens, wordTokens, List.cons_append, List.tail_cons,
      List.nil_append, List.append_assoc, reading?_cons, next?_brace_ident, next?_operator_comma,
      Option.bind_some]
    rw [OperandsDerivation.reading? operands _ hc]
    simp [OpenGroup.extend_eq, GroupDerivation.tree, operatorOf]
termination_by structural x => x

end

theorem QueryDerivation.reading? (d : QueryDerivation) :
    PartialQuery.nothing.reading? d.tokens = some (.complete d.tree) := by
  cases d with
  | path p =>
    obtain ⟨origin, allowed, segments⟩ := p
    have hs : PartialQuery.nothing.next? (originToken origin) = some (startPath .query origin) := by
      cases origin <;> rfl
    rw [QueryDerivation.tokens, PathDerivation.tokens, List.cons_append, reading?_cons, hs,
      Option.bind_some, startPath, segments.reading? _ (by simp) (endsPath_endOfInput _),
      reading?_closePath (by simp) (endsPath_endOfInput _)]
    simp [closePath, OpenPath.extend_eq, OpenPath.toPath, QueryDerivation.tree,
      PathDerivation.tree, PathContext.inFilter, PathContext.asPredicate, Role.inFilter,
      Role.asPredicate, PartialQuery.reading?, next?, step, stepComplete, Except.toOption]
  | group g =>
    have hg := g.reading? .query ⟨rfl, rfl⟩ [.endOfInput]
    obtain ⟨word?, operands⟩ := g
    rw [GroupDerivation.tokens, List.cons_append, List.tail_cons] at hg
    rw [QueryDerivation.tokens, GroupDerivation.tokens, List.cons_append, reading?_cons]
    change (PartialQuery.brace .query).reading? _ = _
    rw [hg]
    simp [closeGroup, OpenGroup.toGroup, QueryDerivation.tree, GroupDerivation.tree,
      PartialQuery.reading?, next?, step, stepComplete, Except.toOption]

end Grammar
end PathQuery
