import PathQuery.Proofs.Grammar.RoundTrip
import PathQuery.Proofs.Grammar.Placement
import PathQuery.Proofs.Evaluation.Failures
import PathQuery.Proofs.Text.Fold

namespace PathQuery

def IsName (name : String) : Prop :=
  name ≠ "" ∧ (tokens anyIdent name).map (·.token) = [.ident name, .endOfInput]

theorem Token.Scanned.isName {name : String} (h : (Token.ident name).Scanned) : IsName name := by
  have hend : Scan.Yields anyIdent [] [.endOfInput] := .finished rfl
  have hy := spells_ident h [] _ (by simp [Reserved]) hend
  rw [List.append_nil] at hy
  have ht := hy.unique (yields_tokens anyIdent name)
  refine ⟨?_, ht.symm⟩
  rintro rfl
  cases ht

theorem Operator.ofWord_eq_invalid {word w : String} (h : Operator.ofWord word = .invalid w) :
    word = w ∧ ∀ o : Operator, o.isValid = true → Text.sameAscii o.text w = false := by
  have hupper : ∀ s : String, Text.sameAscii s word = true →
      word.toList.map Char.toUpper = s.toList.map Char.toUpper := by
    intro s hs
    have hs := congrArg (List.map Char.toUpper) (beq_iff_eq.mp hs)
    simpa only [List.map_map, Function.comp_def, Text.toUpper_toLower] using hs.symm
  unfold Operator.ofWord at h
  split at h
  · cases h
  · next hand =>
    split at h
    · cases h
    · next hor =>
      cases h
      refine ⟨rfl, fun o ho => Bool.eq_false_iff.mpr fun hs => ?_⟩
      cases o with
      | and => exact hand (hupper _ hs)
      | or => exact hor (hupper _ hs)
      | invalid => cases ho

def Node.IsWellFormed : Node → Prop
  | .path p => p.inFilter = true → p.origin = .current
  | .segment (.field name) => IsName name
  | .segment (.filter g) => g.isBraced = true ∨ ∃ p, g = .ofPath p
  | .segment (.call (.unknown name) _) => IsName name ∧ Builtin.named? name = none
  | .argument (.number d text) => Decimal.read? text = some d
  | .group g => g.operands ≠ [] ∧ ∀ word, g.operator = .invalid word →
      IsName word ∧ ∀ o : Operator, o.isValid = true → Text.sameAscii o.text word = false
  | _ => True

theorem Node.isWellFormed_call {name : String} (h : (Token.ident name).Scanned)
    (arguments : List Argument) :
    (Node.segment (.call (.named name) arguments)).IsWellFormed := by
  cases hn : Builtin.named? name with
  | none =>
    rw [Callee.named, hn]
    exact ⟨h.isName, hn⟩
  | some f =>
    rw [Callee.named, hn]
    trivial

namespace Grammar

theorem isWellFormed_group {role : Role} {word? : Option String}
    (h : ∀ t ∈ wordTokens word?, t.Scanned) (operands : OperandsDerivation role) :
    (Node.group (GroupDerivation.mk word? operands).tree).IsWellFormed := by
  refine ⟨?_, ?_⟩
  · cases operands <;> exact List.cons_ne_nil _ _
  · intro word hw
    cases word? with
    | none => cases hw
    | some w =>
      obtain ⟨rfl, hv⟩ := Operator.ofWord_eq_invalid hw
      exact ⟨(h _ List.mem_cons_self).isName, hv⟩

theorem isWellFormed_filter (predicate : OperandDerivation .filterOperand) :
    (Node.segment (.filter predicate.predicate)).IsWellFormed := by
  cases predicate with
  | path p => exact .inr ⟨p.tree, rfl⟩
  | group g =>
    cases g
    exact .inl rfl

-- By derivations: the tree alone does not say that its names were scanned, its tokens do.
mutual

theorem PathDerivation.wellFormed {role : Role} : ∀ d : PathDerivation role,
    (∀ t ∈ d.tokens, t.Scanned) → ∀ n ∈ d.tree.nodes .everywhere, n.IsWellFormed
  | .mk origin allowed segments, h => by
    refine List.forall_mem_cons.mpr ⟨fun hf => ?_, ?_⟩
    · cases origin with
      | root => exact absurd hf (Bool.eq_false_iff.mp (allowed rfl))
      | current => rfl
    · exact segments.wellFormed fun t ht => h t (List.mem_cons_of_mem _ ht)
termination_by structural d => d

theorem SegmentsDerivation.wellFormed : ∀ d : SegmentsDerivation,
    (∀ t ∈ d.tokens, t.Scanned) → ∀ n ∈ Segment.allNodes .everywhere d.trees, n.IsWellFormed
  | .nil, _ => by simp [SegmentsDerivation.trees, Segment.allNodes]
  | .cons first rest, h => by
    obtain ⟨hf, hr⟩ := List.forall_mem_append.mp h
    exact List.forall_mem_append.mpr ⟨first.wellFormed hf, rest.wellFormed hr⟩
termination_by structural d => d

theorem SegmentDerivation.wellFormed : ∀ d : SegmentDerivation,
    (∀ t ∈ d.tokens, t.Scanned) → ∀ n ∈ d.tree.nodes .everywhere, n.IsWellFormed
  | .field name, h => by
    simp only [SegmentDerivation.tokens, List.forall_mem_cons] at h
    exact List.forall_mem_singleton.mpr h.2.1.isName
  | .emptyCall name, h => by
    simp only [SegmentDerivation.tokens, List.forall_mem_cons] at h
    exact List.forall_mem_singleton.mpr (Node.isWellFormed_call h.2.1 [])
  | .call name arguments, h => by
    simp only [SegmentDerivation.tokens, List.forall_mem_cons, List.forall_mem_append] at h
    obtain ⟨-, hn, -, ha, -⟩ := h
    exact List.forall_mem_cons.mpr ⟨Node.isWellFormed_call hn _, arguments.wellFormed ha⟩
  | .filter predicate, h => by
    simp only [SegmentDerivation.tokens, List.forall_mem_cons, List.forall_mem_append] at h
    exact List.forall_mem_cons.mpr ⟨isWellFormed_filter predicate, (predicate.wellFormed h.2.1).1⟩
termination_by structural d => d

theorem ArgumentsDerivation.wellFormed : ∀ d : ArgumentsDerivation,
    (∀ t ∈ d.tokens, t.Scanned) → ∀ n ∈ Argument.allNodes .everywhere d.trees, n.IsWellFormed
  | .one a, h => List.forall_mem_append.mpr ⟨a.wellFormed h, nofun⟩
  | .more a rest, h => by
    obtain ⟨ha, hr⟩ := List.forall_mem_append.mp h
    exact List.forall_mem_append.mpr
      ⟨a.wellFormed ha, rest.wellFormed (List.forall_mem_cons.mp hr).2⟩
termination_by structural d => d

theorem ArgumentDerivation.wellFormed : ∀ d : ArgumentDerivation,
    (∀ t ∈ d.tokens, t.Scanned) → ∀ n ∈ d.tree.nodes .everywhere, n.IsWellFormed
  | .number _ _ representable, _ => List.forall_mem_singleton.mpr representable
  | .string _, _ => List.forall_mem_singleton.mpr trivial
  | .bool _, _ => List.forall_mem_singleton.mpr trivial
  | .path p, h => List.forall_mem_cons.mpr ⟨trivial, p.wellFormed h⟩
termination_by structural d => d

theorem OperandDerivation.wellFormed {role : Role} : ∀ d : OperandDerivation role,
    (∀ t ∈ d.tokens, t.Scanned) → (∀ n ∈ d.predicate.nodes .everywhere, n.IsWellFormed) ∧
      ∀ n ∈ d.tree.nodes .everywhere, n.IsWellFormed
  | .path p, h => by
    have hp := p.wellFormed h
    refine ⟨List.forall_mem_cons.mpr ⟨⟨List.cons_ne_nil _ _, nofun⟩, ?_⟩, hp⟩
    exact List.forall_mem_append.mpr ⟨hp, nofun⟩
  | .group g, h => ⟨g.wellFormed h, g.wellFormed h⟩
termination_by structural d => d

theorem OperandsDerivation.wellFormed {role : Role} : ∀ d : OperandsDerivation role,
    (∀ t ∈ d.tokens, t.Scanned) → ∀ n ∈ Query.allNodes .everywhere d.trees, n.IsWellFormed
  | .one o, h => List.forall_mem_append.mpr ⟨(o.wellFormed h).2, nofun⟩
  | .more o rest, h => by
    obtain ⟨ho, hr⟩ := List.forall_mem_append.mp h
    exact List.forall_mem_append.mpr
      ⟨(o.wellFormed ho).2, rest.wellFormed (List.forall_mem_cons.mp hr).2⟩
termination_by structural d => d

theorem GroupDerivation.wellFormed {role : Role} : ∀ d : GroupDerivation role,
    (∀ t ∈ d.tokens, t.Scanned) → ∀ n ∈ d.tree.nodes .everywhere, n.IsWellFormed
  | .mk word? operands, h => by
    simp only [GroupDerivation.tokens, List.forall_mem_cons, List.forall_mem_append] at h
    obtain ⟨-, ⟨hw, ho⟩, -⟩ := h
    exact List.forall_mem_cons.mpr ⟨isWellFormed_group hw operands, operands.wellFormed ho⟩
termination_by structural d => d

end

theorem QueryDerivation.wellFormed (d : QueryDerivation) (h : ∀ t ∈ d.tokens, t.Scanned) :
    ∀ n ∈ d.tree.nodes .everywhere, n.IsWellFormed := by
  cases d with
  | path p => exact p.wellFormed (List.forall_mem_append.mp h).1
  | group g => exact g.wellFormed (List.forall_mem_append.mp h).1

end Grammar

theorem Query.eval_ne_rootInFilter {q : Query}
    (h : ∀ n ∈ q.nodes .everywhere, n.IsWellFormed) (codecs : Codecs) (current root : Value) :
    q.eval codecs current root ≠ .error .rootInFilter := by
  intro he
  obtain ⟨p, hp, horigin, hin⟩ := (q.eval_fails current (List.Subset.refl _)).of_error he
  rw [h _ hp hin] at horigin
  cases horigin

theorem Query.wellFormed_of_read {text : String} {q : Query} (h : Query.read text = .ok q) :
    q.isPlaced = true ∧ (∀ n ∈ q.nodes .everywhere, n.IsWellFormed) ∧
      ∀ codecs current root, q.eval codecs current root ≠ .error .rootInFilter := by
  have hplaced := Query.isPlaced_of_read h
  obtain ⟨d, hd, rfl⟩ := Grammar.exists_derives h
  have hs : ∀ t ∈ d.tokens, t.Scanned := hd ▸ (yields_tokens anyIdent text).scanned
  have hwell := d.wellFormed hs
  exact ⟨hplaced, hwell, Query.eval_ne_rootInFilter hwell⟩

theorem Query.wellFormed_of_read_nested :
    let text := "\x7bnor,@.a[\x7b@,\x7b@.b.Nope(-1.50,$.c[@])\x7d\x7d]\x7d"
    ∃ q, Query.read text = .ok q ∧ q.isPlaced = true ∧
      (∀ n ∈ q.nodes .everywhere, n.IsWellFormed) ∧
      ∀ codecs current root, q.eval codecs current root ≠ .error .rootInFilter := by
  intro text
  have h : (Query.read text).toOption.isSome = true := by decide +kernel
  obtain ⟨q, hq⟩ := Option.isSome_iff_exists.mp h
  have hq := (PartialQuery.toOption_eq_some_iff _ _).mp hq
  exact ⟨q, hq, Query.wellFormed_of_read hq⟩

end PathQuery
