import Mathlib.Data.List.Forall2
import PathQuery.Evaluation.Basic
import PathQuery.Proofs.Catalog.Dispatch

namespace PathQuery

namespace Value

def HandsOne (v w : Value) : Prop := v = .sequence [w] ∨ v.kind ≠ .sequence ∧ w = v

def Shifted (vs : List Value) : Prop :=
  ∃ p q, vs = [.sequence [], .sequence [p, q]] ∨ vs = [.sequence [p, q], .sequence []]

variable {v w : Value} {vs ws : List Value}

theorem spread_eq_iff : v.spread = ws ↔ v = .sequence ws ∨ v.kind ≠ .sequence ∧ ws = [v] := by
  cases v with
  | sequence items => simp [spread, kind]
  | _ => simp [spread, kind, eq_comm]

theorem spread_eq_singleton : v.spread = [w] ↔ v.HandsOne w := by
  rw [spread_eq_iff]
  simp [HandsOne]

theorem sequence_of_spread (h : v.spread = ws) (hw : ws.length ≠ 1) : v = .sequence ws := by
  rcases spread_eq_iff.mp h with hv | ⟨-, rfl⟩
  · exact hv
  · exact absurd rfl hw

theorem Shifted.length_spread (h : Shifted vs) : (vs.flatMap spread).length = vs.length := by
  obtain ⟨p, q, rfl | rfl⟩ := h <;> rfl

theorem handsOne_or_shifted_pair {v v' : Value} (h : (v.spread ++ v'.spread).length = 2) :
    List.Forall₂ HandsOne [v, v'] (v.spread ++ v'.spread) ∨ Shifted [v, v'] := by
  rw [List.length_append] at h
  rcases hv : v.spread with - | ⟨p, - | ⟨q, ps⟩⟩
  · obtain ⟨p, q, hv'⟩ := List.length_eq_two.mp (show v'.spread.length = 2 by simpa [hv] using h)
    have hfirst : v = .sequence [] := sequence_of_spread hv nofun
    have hsecond : v' = .sequence [p, q] := sequence_of_spread hv' nofun
    exact .inr ⟨p, q, .inl (by rw [hfirst, hsecond])⟩
  · obtain ⟨q, hv'⟩ := List.length_eq_one_iff.mp (show v'.spread.length = 1 by simp [hv] at h; omega)
    rw [hv']
    exact .inl (.cons (spread_eq_singleton.mp hv) (.cons (spread_eq_singleton.mp hv') .nil))
  · have hv' : v'.spread = [] := by
      simp only [hv, List.length_cons] at h
      exact List.eq_nil_of_length_eq_zero (by omega)
    have hps : ps = [] := by
      simp only [hv, hv', List.length_cons, List.length_nil] at h
      exact List.eq_nil_of_length_eq_zero (by omega)
    subst hps
    have hfirst : v = .sequence [p, q] := sequence_of_spread hv nofun
    have hsecond : v' = .sequence [] := sequence_of_spread hv' nofun
    exact .inr ⟨p, q, .inr (by rw [hfirst, hsecond])⟩

theorem length_spread_eq_iff (hle : vs.length ≤ 2) : (vs.flatMap spread).length = vs.length ↔
    List.Forall₂ HandsOne vs (vs.flatMap spread) ∨ Shifted vs := by
  constructor
  · intro h
    match vs with
    | [] => exact .inl .nil
    | [v] =>
      simp only [List.flatMap_cons, List.flatMap_nil, List.append_nil] at h ⊢
      obtain ⟨w, hw⟩ := List.length_eq_one_iff.mp h
      rw [hw]
      exact .inl (.cons (spread_eq_singleton.mp hw) .nil)
    | [v, v'] =>
      simp only [List.flatMap_cons, List.flatMap_nil, List.append_nil] at h ⊢
      exact handsOne_or_shifted_pair h
    | _ :: _ :: _ :: _ => simp only [List.length_cons] at hle; omega
  · rintro (h | h)
    · exact h.length_eq.symm
    · exact h.length_spread

end Value

section

variable {codecs : Codecs} {current root : Value}

-- What an argument comes to, before its elements take its place if it is a list.
def Argument.value (codecs : Codecs) (current root : Value) : Argument → Result
  | .number d _ => .ok (.number d)
  | .string s => .ok (.string s)
  | .bool b => .ok (.bool b)
  | .path p => p.eval codecs current root

theorem Argument.eval_eq_spread (a : Argument) :
    a.eval codecs current root = (a.value codecs current root).map Value.spread := by
  cases a <;> rfl

theorem Argument.evalAll_of_values {arguments : List Argument} {vs : List Value}
    (h : List.Forall₂ (fun a v => a.value codecs current root = .ok v) arguments vs) :
    Argument.evalAll codecs current root arguments = .ok (vs.flatMap Value.spread) := by
  induction h with
  | nil => rfl
  | cons ha _ ih =>
    simp only [Argument.evalAll, Argument.eval_eq_spread, ha, ih]
    rfl

theorem checkCounts_error {a : Arity} {declared found : Nat} {e : CallFailure}
    (h : checkCounts a declared found = .error e) : ∃ n, e = .arity a n := by
  have hfails : Fails (fun e => ∃ n, e = .arity a n) (checkCounts a declared found) :=
    checkCounts_fails (fun n => ⟨n, rfl⟩) declared found
  exact hfails.of_error h

theorem checkCounts_eq_ok_iff {a : Arity} {declared found : Nat} :
    checkCounts a declared found = .ok () ↔
      ∀ b n, checkCounts a declared found ≠ .error (.arity b n) := by
  cases h : checkCounts a declared found with
  | ok _ => exact iff_of_true rfl nofun
  | error e =>
    obtain ⟨n, rfl⟩ := checkCounts_error h
    exact iff_of_false nofun fun hne => hne a n rfl

theorem Segment.eval_call_positions {f : Builtin} {types : List ParameterType}
    (hf : f.signature.arity = .fixed types) {arguments : List Argument} {vs : List Value}
    (hvs : List.Forall₂ (fun a v => a.value codecs current root = .ok v) arguments vs)
    (subject : Value) :
    let result := (Segment.call (.known f) arguments).eval codecs current root subject
    result = (f.call codecs subject (vs.flatMap Value.spread) arguments.length).mapError (.call f) ∧
      ((∀ a n, result ≠ .error (.call f (.arity a n))) ↔ arguments.length = types.length ∧
        (List.Forall₂ Value.HandsOne vs (vs.flatMap Value.spread) ∨ Value.Shifted vs)) := by
  intro result
  have hresult : result =
      (f.call codecs subject (vs.flatMap Value.spread) arguments.length).mapError (.call f) := by
    simp only [result, Segment.eval, Argument.evalAll_of_values hvs]
    rfl
  have harity (a : Arity) (n : Nat) : result = .error (.call f (.arity a n)) ↔
      checkCounts f.signature.arity arguments.length (vs.flatMap Value.spread).length =
        .error (.arity a n) := by
    rw [hresult, mapError_eq_error, ← @Builtin.call_eq_arity_iff f codecs subject]
    constructor
    · rintro ⟨e, he, heq⟩
      cases heq
      exact he
    · exact fun h => ⟨_, h, rfl⟩
  refine ⟨hresult, ?_⟩
  have hlength : arguments.length = vs.length := hvs.length_eq
  calc (∀ a n, result ≠ .error (.call f (.arity a n)))
      ↔ ∀ a n, checkCounts f.signature.arity arguments.length (vs.flatMap Value.spread).length ≠
          .error (.arity a n) := by simp only [ne_eq, harity]
    _ ↔ arguments.length = types.length ∧ types.length = (vs.flatMap Value.spread).length := by
      rw [← checkCounts_eq_ok_iff, checkCounts_eq_ok, hf]
      simp only [Arity.accepts, beq_iff_eq, Arity.fixed.injEq, forall_eq']
      exact and_congr_left fun _ => eq_comm
    _ ↔ _ := by
      refine and_congr_right fun htypes => ?_
      have hle := Builtin.length_types_le hf
      rw [← Value.length_spread_eq_iff (by omega), eq_comm, ← htypes, hlength]

theorem Segment.eval_call_positions_replaceAll :
    let root : Value := .record [("one", .sequence [.string "x"])]
    let arguments : List Argument :=
      [.path ⟨.root, false, false, [.field "one"]⟩, .string "y"]
    let vs : List Value := [.sequence [.string "x"], .string "y"]
    Builtin.replaceAll.signature.arity = .fixed [.string, .string] ∧
      List.Forall₂ (fun a v => a.value (.none .bare) root root = .ok v) arguments vs ∧
      ∀ a n, (Segment.call (.known .replaceAll) arguments).eval (.none .bare) root root
        (.string "axb") ≠ .error (.call .replaceAll (.arity a n)) := by
  intro root arguments vs
  have hvs : List.Forall₂ (fun a v => a.value (.none .bare) root root = .ok v) arguments vs :=
    .cons rfl (.cons rfl .nil)
  have hone : List.Forall₂ Value.HandsOne vs (vs.flatMap Value.spread) :=
    .cons (.inl rfl) (.cons (.inr ⟨nofun, rfl⟩) .nil)
  obtain ⟨-, hiff⟩ := Segment.eval_call_positions (f := .replaceAll) rfl hvs (.string "axb")
  exact ⟨rfl, hvs, hiff.mpr ⟨rfl, .inl hone⟩⟩

theorem Segment.eval_call_shifted :
    let root : Value :=
      .record [("none", .sequence []), ("pair", .sequence [.string "x", .string "y"])]
    let arguments : List Argument := [.path ⟨.root, false, false, [.field "none"]⟩,
      .path ⟨.root, false, false, [.field "pair"]⟩]
    let vs : List Value := [.sequence [], .sequence [.string "x", .string "y"]]
    Builtin.replaceAll.signature.arity.isFixed = true ∧
      List.Forall₂ (fun a v => a.value (.none .bare) root root = .ok v) arguments vs ∧
      (Segment.call (.known .replaceAll) arguments).eval (.none .bare) root root (.string "axb") =
        .ok (.string "ayb") ∧
      ¬List.Forall₂ Value.HandsOne vs (vs.flatMap Value.spread) := by
  intro root arguments vs
  refine ⟨rfl, .cons rfl (.cons rfl .nil), by rfl, fun h => ?_⟩
  have hfirst : (Value.sequence []).HandsOne (.string "x") := (List.forall₂_cons.mp h).1
  rcases hfirst with hlist | ⟨hkind, -⟩
  · cases hlist
  · exact hkind rfl

end

end PathQuery
