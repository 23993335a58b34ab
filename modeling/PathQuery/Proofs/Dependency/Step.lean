import PathQuery.Proofs.Dependency.Along

namespace PathQuery

variable {ε : Type} {c : Chain} {v v' : Value}

def ResultAlong (c : Chain) : Except ε Value → Except ε Value → Prop
  | .ok v, .ok v' => Along c v v'
  | .error e, .error e' => e = e'
  | _, _ => False

theorem ResultAlong.refl (c : Chain) (r : Except ε Value) : ResultAlong c r r := by
  cases r with
  | error e => rfl
  | ok v => exact .same c v

theorem ResultAlong.bind {α : Type} {f f' : α → Except ε Value} (x : Except ε α)
    (h : ∀ a, ResultAlong c (f a) (f' a)) : ResultAlong c (x >>= f) (x >>= f') := by
  cases x with
  | error e => rfl
  | ok a => exact h a

theorem ResultAlong.bind_eq {α : Type} {r r' : Except ε Value} {f f' : Value → Except ε α}
    (h : ResultAlong c r r') (hf : ∀ w w', Along c w w' → f w = f' w') : r >>= f = r' >>= f' := by
  cases r with
  | error e => cases r' with
    | error e' => exact congrArg Except.error h
    | ok v' => exact h.elim
  | ok v => cases r' with
    | error e' => exact h.elim
    | ok v' => exact hf v v' h

theorem ResultAlong.mapError {δ : Type} {r r' : Except ε Value} (g : ε → δ)
    (h : ResultAlong c r r') : ResultAlong c (r.mapError g) (r'.mapError g) := by
  cases r with
  | error e => cases r' with
    | error e' => exact congrArg g h
    | ok v' => exact h.elim
  | ok v => cases r' with
    | error e' => exact h.elim
    | ok v' => exact h

theorem BothAlong.result {o o' : Option Value} (e : ε) : BothAlong c o o' →
    ResultAlong c (match o with | some v => .ok v | none => .error e)
      (match o' with | some v => .ok v | none => .error e) := by
  intro h
  cases o with
  | none => cases o' with
    | none => rfl
    | some v' => exact h.elim
  | some v => cases o' with
    | none => exact h.elim
    | some v' => exact h

def missingField (name : String) (k : Kind) : Failure :=
  match k with
  | .record | .map => .keyNotFound name
  | k => .mismatch (.field name k)

theorem readField_of_not_sequence {name : String} (h : v.kind ≠ .sequence) :
    v.readField name = match v.lookup? name with
      | some w => .ok w
      | none => .error (missingField name v.kind) := by
  cases v with
  | sequence => exact absurd rfl h
  | _ => rfl

theorem readField_along {name : String} (h : Along (name :: c) v v') :
    ResultAlong c (v.readField name) (v'.readField name) := by
  by_cases hs : v.kind = .sequence
  · cases v with
    | sequence vs =>
      obtain ⟨vs', rfl, hvs⟩ := h.sequence
      have hf := hvs.filterMap_lookup?
      simp only [Value.readField]
      generalize vs.filterMap (·.lookup? name) = ws at hf ⊢
      generalize vs'.filterMap (·.lookup? name) = ws' at hf ⊢
      cases hf with
      | nil => rfl
      | cons hw hws => exact (AllAlong.cons hw hws).sequence
    | _ => simp [Value.kind] at hs
  · rw [readField_of_not_sequence hs, readField_of_not_sequence (h.kind_eq ▸ hs), ← h.kind_eq]
    exact h.lookup?.result _

theorem list_along (h : Along c v v') :
    (∃ vs vs', Call.list v = .ok vs ∧ Call.list v' = .ok vs' ∧ AllAlong c vs vs') ∨
      ∃ e, Call.list v = .error e ∧ Call.list v' = .error e := by
  by_cases hs : v.kind = .sequence
  · cases v with
    | sequence vs =>
      obtain ⟨vs', rfl, hvs⟩ := h.sequence
      exact .inl ⟨vs, vs', rfl, rfl, hvs⟩
    | _ => simp [Value.kind] at hs
  · have hl : ∀ w : Value, w.kind ≠ .sequence → Call.list w = .error (.mismatch (.list w.kind)) := by
      intro w hw
      cases w <;> first | rfl | exact absurd rfl hw
    exact .inr ⟨_, hl v hs, h.kind_eq ▸ hl v' (h.kind_eq ▸ hs)⟩

theorem first_along (h : Along c v v') : ResultAlong c (Call.first v) (Call.first v') := by
  rcases list_along h with ⟨vs, vs', hv, hv', hvs⟩ | ⟨e, hv, hv'⟩
  · rw [Call.first, Call.first, hv, hv']
    exact hvs.head?.result CallFailure.emptyList
  · rw [Call.first, Call.first, hv, hv']
    rfl

theorem last_along (h : Along c v v') : ResultAlong c (Call.last v) (Call.last v') := by
  rcases list_along h with ⟨vs, vs', hv, hv', hvs⟩ | ⟨e, hv, hv'⟩
  · rw [Call.last, Call.last, hv, hv']
    exact hvs.getLast?.result CallFailure.emptyList
  · rw [Call.last, Call.last, hv, hv']
    rfl

theorem index_along (p : Value) (h : Along c v v') :
    ResultAlong c (Call.index v p) (Call.index v' p) := by
  rcases list_along h with ⟨vs, vs', hv, hv', hvs⟩ | ⟨e, hv, hv'⟩
  · simp only [Call.index, hv, hv']
    refine ResultAlong.bind (Call.number p) fun d => ?_
    rw [← hvs.length_eq]
    split
    · exact (hvs.getElem? d.trunc.toNat).result (CallFailure.indexOutOfRange d vs.length)
    · rfl
  · rw [Call.index, Call.index, hv, hv']
    rfl

theorem call_along {f : Builtin} (hf : f.signature.passesThrough = true) (codecs : Codecs)
    (params : List Value) (declared : Nat) (h : Along c v v') :
    ResultAlong c (f.call codecs v params declared) (f.call codecs v' params declared) := by
  simp only [Builtin.call]
  refine ResultAlong.bind _ fun _ => ResultAlong.bind _ fun _ => ?_
  cases f with
  | first => match params with
    | [] => exact first_along h
    | [p] | [p, q] | p :: q :: r :: rest => rfl
  | last => match params with
    | [] => exact last_along h
    | [p] | [p, q] | p :: q :: r :: rest => rfl
  | index => match params with
    | [p] => exact index_along p h
    | [] | [p, q] | p :: q :: r :: rest => rfl
  | _ => simp [Signature.passesThrough, Builtin.signature] at hf

end PathQuery
