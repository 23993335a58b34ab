import PathQuery.Proofs.Catalog.Pools

namespace PathQuery

open Decimal

def IsRounded (x : ℚ) (r : CallResult) : Prop :=
  (∃ d : Decimal, r = .ok (.number d) ∧ d.IsRounding x ∧ |x| < bound - 1 / 2) ∨
    r = .error .overflow ∧ bound - 1 / 2 ≤ |x|

theorem Decimal.IsResult.isRounded {x : ℚ} {d? : Option Decimal} (h : IsResult x d?) :
    IsRounded x (Call.ofDecimal? d?) := by
  cases d? with
  | some d => exact .inl ⟨d, rfl, h⟩
  | none => exact .inr ⟨rfl, h⟩

namespace Builtin

variable {codecs : Codecs} {pool : List Decimal}

theorem call_add (a b : Decimal) :
    Builtin.add.call codecs (.number a) [.number b] 1 = Call.ofDecimal? (a.add? b) := rfl

theorem call_sub (a b : Decimal) :
    Builtin.sub.call codecs (.number a) [.number b] 1 = Call.ofDecimal? (a.sub? b) := rfl

theorem call_mul (a b : Decimal) :
    Builtin.mul.call codecs (.number a) [.number b] 1 = Call.ofDecimal? (a.mul? b) := rfl

theorem call_sum_cons (d : Decimal) (ds : List Decimal) :
    Builtin.sum.call codecs (.decimals (d :: ds)) [] 0 = Call.ofDecimal? (Call.total? d ds) := by
  rw [call_decimals rfl]
  exact Call.reduce_decimals_cons rfl

theorem call_sum_nil : Builtin.sum.call codecs (.decimals []) [] 0 = .ok (.number .zero) := rfl

theorem call_sum_near (pool : List Decimal) :
    (∃ d : Decimal, Builtin.sum.call codecs (.decimals pool) [] 0 = .ok (.number d) ∧
        |d.value - total pool| ≤ pool.length / 2) ∨
      Builtin.sum.call codecs (.decimals pool) [] 0 = .error .overflow := by
  cases pool with
  | nil => exact .inl ⟨.zero, call_sum_nil, by simp [value_zero, total]⟩
  | cons d ds =>
    rw [call_sum_cons]
    cases hsum : Call.total? d ds with
    | none => exact .inr rfl
    | some sum =>
      refine .inl ⟨sum, rfl, ?_⟩
      rw [total_cons]
      apply (abs_total?_sub_le hsum).trans
      rw [List.length_cons, Nat.cast_add, Nat.cast_one]
      linarith

theorem call_sum_of_held (h : ∀ p, p <+: pool → Held (total p)) :
    ∃ d : Decimal, Builtin.sum.call codecs (.decimals pool) [] 0 = .ok (.number d) ∧
      d.value = total pool := by
  cases pool with
  | nil => exact ⟨.zero, call_sum_nil, by simp [value_zero, total]⟩
  | cons d ds =>
    have hprefix : ∀ p, p <+: ds → Held (d.value + total p) := by
      intro p hp
      have hcons := h (d :: p) (List.prefix_cons_inj d |>.mpr hp)
      rwa [total_cons] at hcons
    obtain ⟨sum, hsum, hvalue⟩ := total?_of_held hprefix
    refine ⟨sum, ?_, ?_⟩
    · rw [call_sum_cons, hsum]
      rfl
    · rw [hvalue, total_cons]

theorem call_sum_of_extent {s : Nat} (hs : s ≤ maxScale) (hplaces : ∀ d ∈ pool, d.scale ≤ s)
    (hextent : extent pool * tens s < bound) {pool' : List Decimal} (hperm : pool'.Perm pool) :
    ∃ d : Decimal, Builtin.sum.call codecs (.decimals pool') [] 0 = .ok (.number d) ∧
      d.value = total pool := by
  rw [← total_perm hperm]
  apply call_sum_of_held
  intro p hp
  apply held_total_of_prefix hs _ _ hp
  · intro d hd
    exact hplaces d (hperm.mem_iff.mp hd)
  · rwa [extent_perm hperm]

theorem call_arithmetic (codecs : Codecs) :
    (∀ a b : Decimal,
      IsRounded (a.value + b.value) (Builtin.add.call codecs (.number a) [.number b] 1) ∧
      IsRounded (a.value - b.value) (Builtin.sub.call codecs (.number a) [.number b] 1) ∧
      IsRounded (a.value * b.value) (Builtin.mul.call codecs (.number a) [.number b] 1)) ∧
    ∀ pool : List Decimal,
      ((∃ d : Decimal, Builtin.sum.call codecs (.decimals pool) [] 0 = .ok (.number d) ∧
          |d.value - total pool| ≤ pool.length / 2) ∨
        Builtin.sum.call codecs (.decimals pool) [] 0 = .error .overflow) ∧
      ((∀ p, p <+: pool → Held (total p)) →
        ∃ d : Decimal, Builtin.sum.call codecs (.decimals pool) [] 0 = .ok (.number d) ∧
          d.value = total pool) ∧
      ∀ s, s ≤ maxScale → (∀ d ∈ pool, d.scale ≤ s) → extent pool * tens s < bound →
        ∀ pool', pool'.Perm pool →
          ∃ d : Decimal, Builtin.sum.call codecs (.decimals pool') [] 0 = .ok (.number d) ∧
            d.value = total pool := by
  refine ⟨fun a b => ⟨?_, ?_, ?_⟩, fun pool => ⟨?_, ?_, ?_⟩⟩
  · rw [call_add]
    exact (a.add?_isResult b).isRounded
  · rw [call_sub]
    exact (a.sub?_isResult b).isRounded
  · rw [call_mul]
    exact (a.mul?_isResult b).isRounded
  · exact call_sum_near pool
  · exact call_sum_of_held
  · intro s hs hplaces hextent pool' hperm
    exact call_sum_of_extent hs hplaces hextent hperm

theorem call_arithmetic_cents :
    let tenth : Decimal := ⟨false, 1, 1, by decide, by decide⟩
    let refund : Decimal := ⟨true, 205, 2, by decide, by decide⟩
    let pool : List Decimal := [tenth, refund, tenth]
    let codecs : Codecs := .none .bare
    ((∀ p, p <+: pool → Held (total p)) ∧
      ∃ d : Decimal, Builtin.sum.call codecs (.decimals pool) [] 0 = .ok (.number d) ∧
        d.value = total pool) ∧
    (∀ d ∈ pool, d.scale ≤ 2) ∧ extent pool * tens 2 < bound ∧ [refund, tenth, tenth].Perm pool ∧
      ∃ d : Decimal, Builtin.sum.call codecs (.decimals [refund, tenth, tenth]) [] 0 =
        .ok (.number d) ∧ d.value = total pool := by
  intro tenth refund pool codecs
  have hplaces : ∀ d ∈ pool, d.scale ≤ 2 := by decide
  have hextent : extent pool * tens 2 < bound := by
    norm_num [extent, pool, tenth, refund, value, coefficient, withSign, tens, bound, twos]
  have hheld : ∀ p, p <+: pool → Held (total p) :=
    fun _ => held_total_of_prefix (by decide) hplaces hextent
  have hperm : [refund, tenth, tenth].Perm pool := .swap tenth refund [tenth]
  obtain ⟨-, hexact, hroom⟩ := (call_arithmetic codecs).2 pool
  exact ⟨⟨hheld, hexact hheld⟩, hplaces, hextent, hperm, hroom 2 (by decide) hplaces hextent _ hperm⟩

theorem call_arithmetic_inexact :
    let small : Decimal := ⟨false, 1, 15, by decide, by decide⟩
    let nothing : Decimal := ⟨false, 0, 28, by decide, by decide⟩
    let large : Decimal := ⟨false, 79228162514264337593543950334, 0, by decide, by decide⟩
    let largest : Decimal := ⟨false, 79228162514264337593543950335, 0, by decide, by decide⟩
    let half : Decimal := ⟨false, 5, 1, by decide, by decide⟩
    let codecs : Codecs := .none .bare
    (Builtin.mul.call codecs (.number small) [.number small] 1 = .ok (.number nothing) ∧
      nothing.value ≠ small.value * small.value) ∧
    Builtin.sum.call codecs (.decimals [half, half, large]) [] 0 = .ok (.number largest) ∧
    largest.value = total [half, half, large] ∧
    Builtin.sum.call codecs (.decimals [large, half, half]) [] 0 = .ok (.number large) ∧
    large.value ≠ largest.value := by
  intro small nothing large largest half codecs
  have hproduct : small.mul? small = some nothing := by decide +kernel
  have hright : Call.total? half [half, large] = some largest := by decide +kernel
  have hwrong : Call.total? large [half, half] = some large := by decide +kernel
  refine ⟨⟨?_, ?_⟩, ?_, ?_, ?_, ?_⟩
  · rw [call_mul, hproduct]
    rfl
  · norm_num [nothing, small, value, coefficient, withSign, tens]
  · rw [call_sum_cons, hright]
    rfl
  · norm_num [total, largest, half, large, value, coefficient, withSign, tens]
  · rw [call_sum_cons, hwrong]
    rfl
  · norm_num [large, largest, value, coefficient, withSign, tens]

end Builtin

end PathQuery
