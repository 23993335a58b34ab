import PathQuery.Proofs.Scan.Progress

namespace PathQuery.Scan

inductive Yields (policy : IdentPolicy) : List Char → List Token → Prop where
  | finished {cs : List Char} (h : afterTrivia? .plain cs = some []) :
    Yields policy cs [.endOfInput]
  | unterminated {cs : List Char} (h : afterTrivia? .plain cs = none) :
    Yields policy cs [.invalid "unterminated comment", .endOfInput]
  | token {cs rest rest' : List Char} {c : Char} {t : Token} {ts : List Token}
    (h : afterTrivia? .plain cs = some (c :: rest))
    (ht : Scan.token policy (c :: rest) = (t, rest')) (hts : Yields policy rest' ts) :
    Yields policy cs (t :: ts)

variable {policy : IdentPolicy}

theorem Yields.unique {cs : List Char} {ts us : List Token} (h : Yields policy cs ts)
    (hu : Yields policy cs us) : ts = us := by
  induction h generalizing us with
  | finished h => cases hu <;> simp_all
  | unterminated h => cases hu <;> simp_all
  | token h ht _ ih =>
    cases hu with
    | finished h' => simp_all
    | unterminated h' => simp_all
    | token h' ht' hts' =>
      obtain ⟨rfl, rfl⟩ := List.cons.inj (Option.some.inj (h.symm.trans h'))
      obtain ⟨rfl, rfl⟩ := Prod.mk.inj (ht.symm.trans ht')
      rw [ih hts']

theorem Yields.congr {cs ds : List Char} {ts : List Token} (h : Yields policy cs ts)
    (hds : afterTrivia? .plain ds = afterTrivia? .plain cs) : Yields policy ds ts := by
  cases h with
  | finished h => exact .finished (hds.trans h)
  | unterminated h => exact .unterminated (hds.trans h)
  | token h ht hts => exact .token (hds.trans h) ht hts

theorem Yields.eq_append_endOfInput {cs : List Char} {ts : List Token} (h : Yields policy cs ts) :
    ∃ us, ts = us ++ [.endOfInput] ∧ .endOfInput ∉ us := by
  induction h with
  | finished => exact ⟨[], rfl, by simp⟩
  | unterminated => exact ⟨[.invalid "unterminated comment"], rfl, by simp⟩
  | @token cs rest rest' c t ts h ht _ ih =>
    obtain ⟨us, rfl, hus⟩ := ih
    have hne := token_ne policy c rest
    rw [ht] at hne
    exact ⟨t :: us, rfl, by simp [hne.symm, hus]⟩

end Scan

namespace Cursor

open Scan

variable {policy : IdentPolicy} {c c' : Cursor} {t : PlacedToken}

theorem next_of_none (hc : c.next policy = (t, c')) (h : afterTrivia? .plain c.rest = none) :
    t.token = .invalid "unterminated comment" ∧ c'.rest = [] := by
  simp only [next, h, Prod.mk.injEq] at hc
  obtain ⟨rfl, rfl⟩ := hc
  exact ⟨rfl, rfl⟩

theorem next_of_some {rest : List Char} (hc : c.next policy = (t, c'))
    (h : afterTrivia? .plain c.rest = some rest) :
    Scan.token policy rest = (t.token, c'.rest) := by
  simp only [next, h, Prod.mk.injEq] at hc
  obtain ⟨rfl, rfl⟩ := hc
  rfl

theorem yields_tokensWithin {n : Nat} (hn : c.rest.length < n) :
    Yields policy c.rest ((c.tokensWithin policy n).map (·.token)) := by
  induction n generalizing c with
  | zero => omega
  | succ n ih =>
    simp only [tokensWithin]
    generalize hc : c.next policy = next
    obtain ⟨t, c'⟩ := next
    match h : afterTrivia? .plain c.rest with
    | none =>
      obtain ⟨ht, hr⟩ := next_of_none hc h
      have hpos : c.rest ≠ [] := fun h' => absurd (h' ▸ h) (by decide)
      have hlt : c'.rest.length < n := by
        rw [hr]
        exact Nat.lt_of_lt_of_le (List.length_pos_iff.mpr hpos) (Nat.le_of_lt_succ hn)
      have hend : (c'.tokensWithin policy n).map (·.token) = [.endOfInput] :=
        (ih hlt).unique (hr ▸ .finished rfl)
      rw [if_neg (by simp [ht]), List.map_cons, ht, hend]
      exact .unterminated h
    | some [] =>
      have ht : t.token = .endOfInput := congrArg Prod.fst (next_of_some hc h).symm
      rw [if_pos ht, List.map_singleton, ht]
      exact .finished h
    | some (a :: rest) =>
      have hr := next_of_some hc h
      have hne := token_ne policy a rest
      have hl := token_length policy a rest
      have hrest := afterTrivia?_length h
      simp only [hr, List.length_cons] at hne hl hrest
      rw [if_neg hne]
      exact .token h hr (ih (by omega))

end Cursor

theorem yields_tokens (policy : IdentPolicy) (s : String) :
    Scan.Yields policy s.toList ((tokens policy s).map (·.token)) :=
  Cursor.yields_tokensWithin (c := .ofText s) (Nat.lt_succ_self _)

end PathQuery
