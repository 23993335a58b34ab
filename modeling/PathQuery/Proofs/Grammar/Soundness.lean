import PathQuery.Proofs.Grammar.Completeness

namespace PathQuery

open PartialQuery

namespace PartialQuery

def Accepts (p : PartialQuery) (ts : List Token) : Prop := ∃ q, p.reading? ts = some (.complete q)

variable {p : OpenPath} {g : OpenGroup} {c : OpenCall} {t : Token} {ts : List Token}
  {r : PartialQuery}

theorem accepts_cons : r.Accepts (t :: ts) ↔ ∃ r', r.next? t = some r' ∧ r'.Accepts ts := by
  constructor
  · rintro ⟨q, h⟩
    rw [reading?_cons, Option.bind_eq_some_iff] at h
    obtain ⟨r', hr, h⟩ := h
    exact ⟨r', hr, q, h⟩
  · rintro ⟨r', hr, q, h⟩
    exact ⟨q, by rw [reading?_cons, hr]; exact h⟩

theorem Accepts.congr {r' : PartialQuery} {us : List Token}
    (h : r.reading? ts = r'.reading? us) : r.Accepts ts ↔ r'.Accepts us := by
  simp only [Accepts, h]

theorem refuse_ne_ok {expected : String} {t : PlacedToken} :
    (refuse expected t : Except SyntaxError PartialQuery) ≠ .ok r := by
  unfold refuse
  split <;> simp

theorem next?_dot (h : (PartialQuery.dot p).next? t = some r) :
    ∃ name, t = .ident name ∧ r = .named p name := by
  simp only [next?, toOption_eq_some_iff, step] at h
  split at h
  · exact ⟨_, rfl, (Except.ok.inj h).symm⟩
  · exact absurd h refuse_ne_ok

theorem next?_bracket (h : (PartialQuery.bracket p).next? t = some r) :
    (t = .rune '\x7b' ∧ r = .brace (.filter p)) ∨
      (t = .rune '@' ∧ r = startPath (.filter p) .current) := by
  simp only [next?, toOption_eq_some_iff, step] at h
  split at h
  · exact .inl ⟨rfl, (Except.ok.inj h).symm⟩
  · exact .inr ⟨rfl, (Except.ok.inj h).symm⟩
  · simp at h
  · exact absurd h refuse_ne_ok

theorem next?_operandComma (h : (PartialQuery.operandComma g).next? t = some r) :
    (t = .rune '\x7b' ∧ r = .brace (.operand g)) ∨
      ∃ o, t = Grammar.originToken o ∧ (o = .root → g.context.inFilter = false) ∧
        r = startPath (.operand g) o := by
  simp only [next?, toOption_eq_some_iff, step, stepOperand] at h
  split at h
  · exact .inl ⟨rfl, (Except.ok.inj h).symm⟩
  · exact .inr ⟨.current, rfl, by simp, (Except.ok.inj h).symm⟩
  · split at h
    · simp at h
    · next hf => exact .inr ⟨.root, rfl, by simpa using hf, (Except.ok.inj h).symm⟩
  · exact absurd h refuse_ne_ok

theorem next?_operator {c : GroupContext} {word : String}
    (h : (PartialQuery.operator c word).next? t = some r) :
    t = .rune ',' ∧ r = .operandComma ⟨c, .ofWord word, true, []⟩ := by
  simp only [next?, toOption_eq_some_iff, step] at h
  split at h
  · exact ⟨rfl, (Except.ok.inj h).symm⟩
  · exact absurd h refuse_ne_ok

theorem next?_argumentComma (h : (PartialQuery.argumentComma c).next? t = some r) :
    (∃ a : Grammar.ArgumentDerivation, a.tokens = [t] ∧ r = .argument (c.push a.tree)) ∨
      ∃ o, t = Grammar.originToken o ∧ r = startPath (.argument c) o := by
  simp only [next?, toOption_eq_some_iff, step, stepArgument] at h
  split at h
  · split at h
    · next hd => exact .inl ⟨.number _ _ hd, rfl, (Except.ok.inj h).symm⟩
    · simp at h
  · next s => exact .inl ⟨.string s, rfl, (Except.ok.inj h).symm⟩
  · exact .inl ⟨.bool true, rfl, (Except.ok.inj h).symm⟩
  · exact .inl ⟨.bool false, rfl, (Except.ok.inj h).symm⟩
  · exact .inr ⟨.current, rfl, (Except.ok.inj h).symm⟩
  · exact .inr ⟨.root, rfl, (Except.ok.inj h).symm⟩
  · exact absurd h refuse_ne_ok

theorem next?_predicate {g : Group} (h : (PartialQuery.predicate p g).next? t = some r) :
    t = .rune ']' ∧ r = .path (p.push (.filter g)) := by
  simp only [next?, toOption_eq_some_iff, step, stepComplete] at h
  split at h
  · exact ⟨rfl, (Except.ok.inj h).symm⟩
  · exact absurd h refuse_ne_ok

theorem next?_operand (h : (PartialQuery.operand g).next? t = some r) :
    (t = .rune ',' ∧ r = .operandComma g) ∨ (t = .rune '\x7d' ∧ r = closeGroup g) := by
  simp only [next?, toOption_eq_some_iff, step, stepComplete] at h
  split at h
  · exact .inl ⟨rfl, (Except.ok.inj h).symm⟩
  · exact .inr ⟨rfl, (Except.ok.inj h).symm⟩
  · exact absurd h refuse_ne_ok

theorem next?_argument (h : (PartialQuery.argument c).next? t = some r) :
    (t = .rune ',' ∧ r = .argumentComma c) ∨ (t = .rune ')' ∧ r = .path c.close) := by
  simp only [next?, toOption_eq_some_iff, step, stepComplete] at h
  split at h
  · exact .inl ⟨rfl, (Except.ok.inj h).symm⟩
  · exact .inr ⟨rfl, (Except.ok.inj h).symm⟩
  · exact absurd h refuse_ne_ok

theorem next?_complete {q : Query} (h : (PartialQuery.complete q).next? t = some r) :
    t = .endOfInput ∧ r = .complete q := by
  simp only [next?, toOption_eq_some_iff, step, stepComplete] at h
  split at h
  · exact ⟨rfl, (Except.ok.inj h).symm⟩
  · simp at h
  · simp at h

theorem next?_nothing (h : PartialQuery.nothing.next? t = some r) :
    (t = .rune '\x7b' ∧ r = .brace .query) ∨
      ∃ o, t = Grammar.originToken o ∧ r = startPath .query o := by
  simp only [next?, toOption_eq_some_iff, step] at h
  split at h
  · exact .inl ⟨rfl, (Except.ok.inj h).symm⟩
  · exact .inr ⟨.current, rfl, (Except.ok.inj h).symm⟩
  · exact .inr ⟨.root, rfl, (Except.ok.inj h).symm⟩
  · exact absurd h refuse_ne_ok

theorem endsPath_of_next? (ht : ¬(t = .rune '.' ∨ t = .rune '['))
    (h : (PartialQuery.path p).next? t = some r) : Grammar.EndsPath (t :: ts) := by
  rw [Grammar.next?_path ht] at h
  obtain ⟨context, origin, segments⟩ := p
  cases context with
  | query => obtain ⟨rfl, -⟩ := next?_complete h; exact Grammar.endsPath_endOfInput _
  | operand g =>
    rcases next?_operand h with ⟨rfl, -⟩ | ⟨rfl, -⟩
    · exact Grammar.endsPath_comma _
    · exact Grammar.endsPath_brace _
  | filter around => obtain ⟨rfl, -⟩ := next?_predicate h; exact Grammar.endsPath_bracket _
  | argument c =>
    rcases next?_argument h with ⟨rfl, -⟩ | ⟨rfl, -⟩
    · exact Grammar.endsPath_comma _
    · exact Grammar.endsPath_paren _

theorem Accepts.split (h : r.Accepts ts) (hr : ∀ q, r ≠ .complete q) :
    ∃ t us r', ts = t :: us ∧ r.next? t = some r' ∧ r'.Accepts us := by
  cases ts with
  | nil =>
    obtain ⟨q, hq⟩ := h
    exact absurd (Option.some.inj hq) (hr q)
  | cons t us =>
    obtain ⟨r', hn, h⟩ := accepts_cons.mp h
    exact ⟨t, us, r', rfl, hn, h⟩

end PartialQuery

namespace Grammar

-- Tokens of a length have derivations of the parts that they start with.
structure Derivable (n : Nat) : Prop where
  segments : ∀ {p : OpenPath} {ts : List Token}, ts.length = n → (PartialQuery.path p).Accepts ts →
    ∃ (s : SegmentsDerivation) (us : List Token), ts = s.tokens ++ us ∧ us ≠ [] ∧ EndsPath us
  arguments : ∀ {c : OpenCall} {ts : List Token}, ts.length = n →
    (PartialQuery.argumentComma c).Accepts ts →
    ∃ (a : ArgumentsDerivation) (us : List Token), ts = a.tokens ++ .rune ')' :: us
  operands : ∀ {role : Role} {g : OpenGroup} {ts : List Token}, GroupFits g.context role →
    ts.length = n → (PartialQuery.operandComma g).Accepts ts →
    ∃ (o : OperandsDerivation role) (us : List Token), ts = o.tokens ++ .rune '\x7d' :: us

theorem SegmentsDerivation.accepts {p : OpenPath} {s : SegmentsDerivation} {us : List Token}
    (hne : us ≠ []) (he : EndsPath us) :
    (PartialQuery.path p).Accepts (s.tokens ++ us) ↔ (closePath (p.extend s.trees)).Accepts us :=
  Accepts.congr ((s.reading? p hne he).trans (reading?_closePath hne he))

theorem GroupDerivation.accepts {role : Role} {c : GroupContext} {g : GroupDerivation role}
    {ts us : List Token} (hc : GroupFits c role) (h : .rune '\x7b' :: ts = g.tokens ++ us) :
    (PartialQuery.brace c).Accepts ts ↔
      (closeGroup ⟨c, g.tree.operator, g.tree.isExplicit, g.tree.operands.reverse⟩).Accepts us := by
  have hr := g.reading? c hc us
  rw [← h, List.tail_cons] at hr
  exact Accepts.congr hr

section

variable {n : Nat} (ih : ∀ m < n, Derivable m)
include ih

theorem group_of_accepts {role : Role} {c : GroupContext} {ts : List Token}
    (hc : GroupFits c role) (hn : ts.length < n) (h : (PartialQuery.brace c).Accepts ts) :
    ∃ (g : GroupDerivation role) (us : List Token), .rune '\x7b' :: ts = g.tokens ++ us := by
  obtain ⟨t, us, r, rfl, hr, hu⟩ := h.split (by simp)
  by_cases hw : ∃ word, t = .ident word
  · obtain ⟨word, rfl⟩ := hw
    obtain rfl := Option.some.inj hr
    obtain ⟨t, us, r, rfl, hr, hu⟩ := hu.split (by simp)
    obtain ⟨rfl, rfl⟩ := next?_operator hr
    simp only [List.length_cons] at hn
    obtain ⟨o, us, rfl⟩ := (ih us.length (by omega)).operands (g := ⟨c, _, _, _⟩) hc rfl hu
    exact ⟨.mk (some word) o, us, by simp [GroupDerivation.tokens, wordTokens]⟩
  · rw [Accepts.congr (reading?_brace (by simp) (by simp_all))] at h
    obtain ⟨o, us, hts⟩ := (ih _ hn).operands (g := emptyGroup c) hc rfl h
    exact ⟨.mk none o, us, by simp [GroupDerivation.tokens, wordTokens, hts]⟩

theorem filter_of_accepts {p : OpenPath} {ts : List Token} (hn : ts.length < n)
    (h : (PartialQuery.bracket p).Accepts ts) :
    ∃ (o : OperandDerivation .filterOperand) (us : List Token),
      ts = o.tokens ++ .rune ']' :: us ∧
      (PartialQuery.path (p.push (.filter o.predicate))).Accepts us := by
  obtain ⟨t, us, r, rfl, hr, h⟩ := h.split (by simp)
  simp only [List.length_cons] at hn
  rcases next?_bracket hr with ⟨rfl, rfl⟩ | ⟨rfl, rfl⟩
  · have hc : GroupFits (.filter p) .filterOperand := ⟨rfl, rfl⟩
    obtain ⟨g, vs, hg⟩ := group_of_accepts ih hc (by omega) h
    rw [GroupDerivation.accepts hc hg] at h
    obtain ⟨t, ws, r, rfl, hr, h⟩ := h.split (by simp [closeGroup])
    obtain ⟨rfl, rfl⟩ := next?_predicate hr
    obtain ⟨word?, operands⟩ := g
    refine ⟨.group (.mk word? operands), ws, hg, ?_⟩
    simpa [OpenGroup.toGroup, OperandDerivation.predicate, GroupDerivation.tree] using h
  · obtain ⟨s, vs, rfl, hne, he⟩ := (ih us.length (by omega)).segments rfl h
    rw [startPath, SegmentsDerivation.accepts hne he] at h
    rw [OpenPath.extend_eq] at h
    obtain ⟨t, ws, r, rfl, hr, h⟩ := h.split (by simp [closePath])
    obtain ⟨rfl, rfl⟩ := next?_predicate hr
    refine ⟨.path (.mk .current (by simp) s), ws, ?_, ?_⟩
    · simp [OperandDerivation.tokens, PathDerivation.tokens, originToken]
    · simpa [OpenPath.toPath, OperandDerivation.predicate, PathDerivation.tree,
        PathContext.inFilter, PathContext.asPredicate, Role.inFilter, Role.asPredicate] using h

theorem segment_of_accepts {p : OpenPath} {t : Token} {ts : List Token}
    (hn : (t :: ts).length = n) (h : (PartialQuery.path p).Accepts (t :: ts))
    (ht : t = .rune '.' ∨ t = .rune '[') :
    ∃ (s : SegmentDerivation) (us : List Token), t :: ts = s.tokens ++ us ∧ us.length < n ∧
      (PartialQuery.path (p.push s.tree)).Accepts us := by
  obtain ⟨r, hr, h⟩ := accepts_cons.mp h
  subst hn
  rcases ht with rfl | rfl
  · obtain rfl := Option.some.inj hr
    obtain ⟨t, us, r, rfl, hr, h⟩ := h.split (by simp)
    obtain ⟨name, rfl, rfl⟩ := next?_dot hr
    by_cases hp : us.head? = some (.rune '(')
    · obtain ⟨us, rfl⟩ := List.head?_eq_some_iff.mp hp
      obtain ⟨r, hr, h⟩ := accepts_cons.mp h
      obtain rfl := Option.some.inj hr
      by_cases hq : us.head? = some (.rune ')')
      · obtain ⟨us, rfl⟩ := List.head?_eq_some_iff.mp hq
        obtain ⟨r, hr, h⟩ := accepts_cons.mp h
        obtain rfl := Option.some.inj hr
        exact ⟨.emptyCall name, us, rfl, by simp only [List.length_cons]; omega, h⟩
      · obtain ⟨t, vs, r, rfl, -, -⟩ := h.split (by simp)
        rw [Accepts.congr (reading?_parenthesis (by simp) (by simp_all))] at h
        obtain ⟨a, ws, ha⟩ := (ih (t :: vs).length (by simp)).arguments rfl h
        rw [ha, Accepts.congr (a.reading? _)] at h
        refine ⟨.call name a, ws, by simp [SegmentDerivation.tokens, ha], ?_, ?_⟩
        · have := congrArg List.length ha
          simp only [List.length_append, List.length_cons] at this ⊢
          omega
        · simpa [OpenCall.extend_eq, OpenCall.close, SegmentDerivation.tree] using h
    · obtain ⟨t, vs, r, rfl, -, -⟩ := h.split (by simp)
      rw [Accepts.congr (reading?_named (by simp) hp)] at h
      exact ⟨.field name, t :: vs, rfl, by simp only [List.length_cons]; omega, h⟩
  · obtain rfl := Option.some.inj hr
    obtain ⟨o, us, rfl, hu⟩ := filter_of_accepts ih (by simp) h
    refine ⟨.filter o, us, by simp [SegmentDerivation.tokens], ?_, hu⟩
    simp only [List.length_append, List.length_cons]
    omega

theorem argument_of_accepts {c : OpenCall} {ts : List Token} (hn : ts.length = n)
    (h : (PartialQuery.argumentComma c).Accepts ts) :
    ∃ (a : ArgumentDerivation) (us : List Token), ts = a.tokens ++ us ∧ us.length < n ∧
      (PartialQuery.argument (c.push a.tree)).Accepts us := by
  obtain ⟨t, us, r, rfl, hr, h⟩ := h.split (by simp)
  subst hn
  rcases next?_argumentComma hr with ⟨a, ha, rfl⟩ | ⟨origin, rfl, rfl⟩
  · exact ⟨a, us, by simp [ha], by simp, h⟩
  · obtain ⟨s, vs, rfl, hne, he⟩ := (ih us.length (by simp)).segments rfl h
    rw [startPath, SegmentsDerivation.accepts hne he, OpenPath.extend_eq] at h
    refine ⟨.path (.mk origin (fun _ => rfl) s), vs, rfl, ?_, ?_⟩
    · simp only [List.length_append, List.length_cons]
      omega
    · simpa [closePath, OpenPath.toPath, ArgumentDerivation.tree, PathDerivation.tree,
        PathContext.inFilter, PathContext.asPredicate, Role.inFilter, Role.asPredicate] using h

theorem operand_of_accepts {role : Role} {g : OpenGroup} {ts : List Token}
    (hg : GroupFits g.context role) (hn : ts.length = n)
    (h : (PartialQuery.operandComma g).Accepts ts) :
    ∃ (o : OperandDerivation role) (us : List Token), ts = o.tokens ++ us ∧ us.length < n ∧
      (PartialQuery.operand (g.push o.tree)).Accepts us := by
  obtain ⟨t, us, r, rfl, hr, h⟩ := h.split (by simp)
  subst hn
  rcases next?_operandComma hr with ⟨rfl, rfl⟩ | ⟨origin, rfl, ho, rfl⟩
  · obtain ⟨d, vs, hd⟩ := group_of_accepts ih hg.operand (by simp) h
    rw [GroupDerivation.accepts hg.operand hd] at h
    obtain ⟨word?, operands⟩ := d
    refine ⟨.group (.mk word? operands), vs, hd, ?_, ?_⟩
    · simp only [hd, GroupDerivation.tokens, List.length_append, List.length_cons]
      omega
    · simpa [closeGroup, OpenGroup.toGroup, OperandDerivation.tree, GroupDerivation.tree] using h
  · obtain ⟨s, vs, rfl, hne, he⟩ := (ih us.length (by simp)).segments rfl h
    rw [startPath, SegmentsDerivation.accepts hne he, OpenPath.extend_eq] at h
    refine ⟨.path (.mk origin (fun h => hg.inFilter ▸ ho h) s), vs, rfl, ?_, ?_⟩
    · simp only [List.length_append, List.length_cons]
      omega
    · simpa [closePath, OpenPath.toPath, OperandDerivation.tree, PathDerivation.tree,
        PathContext.inFilter, PathContext.asPredicate, hg.inFilter, hg.asPredicate] using h

end

theorem derivable (n : Nat) : Derivable n := by
  induction n using Nat.strongRecOn with
  | ind n ih =>
    refine ⟨?_, ?_, ?_⟩
    · intro p ts hn h
      obtain ⟨t, us, r, rfl, hr, -⟩ := h.split (by simp)
      by_cases ht : t = .rune '.' ∨ t = .rune '['
      · obtain ⟨s, us, hts, hus, h⟩ := segment_of_accepts ih hn h ht
        obtain ⟨rest, vs, rfl, hne, he⟩ := (ih _ hus).segments rfl h
        exact ⟨.cons s rest, vs, by simp [SegmentsDerivation.tokens, hts], hne, he⟩
      · exact ⟨.nil, t :: us, rfl, by simp, endsPath_of_next? ht hr⟩
    · intro c ts hn h
      obtain ⟨a, us, rfl, hus, h⟩ := argument_of_accepts ih hn h
      obtain ⟨t, us, r, rfl, hr, h⟩ := h.split (by simp)
      rcases next?_argument hr with ⟨rfl, rfl⟩ | ⟨rfl, rfl⟩
      · obtain ⟨rest, vs, rfl⟩ := (ih _ (Nat.lt_of_succ_lt hus)).arguments rfl h
        exact ⟨.more a rest, vs, by simp [ArgumentsDerivation.tokens]⟩
      · exact ⟨.one a, us, rfl⟩
    · intro role g ts hg hn h
      obtain ⟨o, us, rfl, hus, h⟩ := operand_of_accepts ih hg hn h
      obtain ⟨t, us, r, rfl, hr, h⟩ := h.split (by simp)
      rcases next?_operand hr with ⟨rfl, rfl⟩ | ⟨rfl, -⟩
      · obtain ⟨rest, vs, rfl⟩ :=
          (ih _ (Nat.lt_of_succ_lt hus)).operands (g := g.push o.tree) hg rfl h
        exact ⟨.more o rest, vs, by simp [OperandsDerivation.tokens]⟩
      · exact ⟨.one o, us, rfl⟩

theorem complete_accepts {q : Query} {ts : List Token} (h : (PartialQuery.complete q).Accepts ts) :
    ∀ t ∈ ts, t = .endOfInput := by
  induction ts with
  | nil => simp
  | cons t ts ih =>
    obtain ⟨r, hr, h⟩ := accepts_cons.mp h
    obtain ⟨rfl, rfl⟩ := next?_complete hr
    exact List.forall_mem_cons.mpr ⟨rfl, ih h⟩

theorem rest_eq_endOfInput {ts xs us : List Token} (hts : .endOfInput ∉ ts)
    (h : ts ++ [.endOfInput] = xs ++ us) (hne : us ≠ []) (hus : ∀ t ∈ us, t = .endOfInput) :
    us = [.endOfInput] := by
  obtain ⟨vs, t, rfl⟩ := (List.eq_nil_or_concat us).resolve_left hne
  rw [List.concat_eq_append, ← List.append_assoc, List.append_singleton_inj] at h
  obtain ⟨rfl, rfl⟩ := h
  cases vs with
  | nil => rfl
  | cons v vs =>
    have hv : v = .endOfInput := hus v (by simp)
    exact absurd (by simp [hv]) hts

theorem exists_derivation {ts : List Token} (hts : .endOfInput ∉ ts)
    (h : PartialQuery.nothing.Accepts (ts ++ [.endOfInput])) :
    ∃ d : QueryDerivation, d.tokens = ts ++ [.endOfInput] := by
  obtain ⟨t, us, r, ht, hr, h⟩ := h.split (by simp)
  rcases next?_nothing hr with ⟨rfl, rfl⟩ | ⟨origin, rfl, rfl⟩
  · have hc : GroupFits .query .operand := ⟨rfl, rfl⟩
    obtain ⟨g, vs, hg⟩ := group_of_accepts (fun m _ => derivable m) hc us.length.lt_succ_self h
    rw [GroupDerivation.accepts hc hg] at h
    have hvs : vs ≠ [] := by
      rintro rfl
      obtain ⟨word?, operands⟩ := g
      rw [← ht, GroupDerivation.tokens, List.append_nil, ← List.cons_append,
        List.append_singleton_inj] at hg
      simp at hg
    rw [hg] at ht
    rw [rest_eq_endOfInput hts ht hvs (complete_accepts h)] at ht
    exact ⟨.group g, ht.symm⟩
  · obtain ⟨s, vs, rfl, hvs, he⟩ := (derivable _).segments rfl h
    rw [startPath, SegmentsDerivation.accepts hvs he, OpenPath.extend_eq] at h
    rw [← List.cons_append] at ht
    have hts := rest_eq_endOfInput hts ht hvs (complete_accepts h)
    rw [hts] at ht
    exact ⟨.path (.mk origin (fun _ => rfl) s), ht.symm⟩

end Grammar
end PathQuery
