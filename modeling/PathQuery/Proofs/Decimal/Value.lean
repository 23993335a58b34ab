import Mathlib.Algebra.Order.Field.Rat
import Mathlib.Data.Nat.Cast.Field
import Mathlib.Tactic.FieldSimp
import Mathlib.Tactic.Linarith
import Mathlib.Tactic.Positivity
import Mathlib.Tactic.Ring
import PathQuery.Decimal.Basic
import PathQuery.Decimal.Rounding

namespace PathQuery

theorem tens_zero : tens 0 = 1 := rfl

theorem tens_add (m n : Nat) : tens (m + n) = tens m * tens n := Nat.pow_add 10 m n

theorem tens_lt_tens {m n : Nat} (h : m < n) : tens m < tens n :=
  Nat.pow_lt_pow_right (by decide) h

namespace Decimal

theorem tens_cast (n : Nat) : (tens n : ℚ) = 10 ^ n := Nat.cast_pow 10 n

theorem tens_cast_pos (n : Nat) : (0 : ℚ) < tens n := Nat.cast_pos.mpr (tens_pos n)

theorem tens_cast_ne_zero (n : Nat) : (tens n : ℚ) ≠ 0 := (tens_cast_pos n).ne'

def value (d : Decimal) : ℚ := d.coefficient / tens d.scale

def Held (x : ℚ) : Prop := ∃ d : Decimal, d.value = x

def Fits (n s : Nat) : Prop := ∃ m t, m < bound ∧ t ≤ maxScale ∧ n * tens t = m * tens s

theorem withSign_mul (negative : Bool) (m n : Nat) :
    withSign negative (m * n) = withSign negative m * n := by
  cases negative <;> simp [withSign]

theorem div_tens_eq_iff {a b : Int} {s t : Nat} :
    (a : ℚ) / tens s = b / tens t ↔ a * tens t = b * tens s := by
  rw [div_eq_div_iff (tens_cast_ne_zero s) (tens_cast_ne_zero t)]
  norm_cast

theorem held_iff_fits {negative : Bool} {n s : Nat} :
    Held (withSign negative n / tens s) ↔ Fits n s := by
  constructor
  · rintro ⟨d, hd⟩
    have hmul := congrArg Int.natAbs (div_tens_eq_iff.mp hd)
    simp only [Int.natAbs_mul, Int.natAbs_natCast, natAbs_coefficient, natAbs_withSign] at hmul
    exact ⟨d.magnitude, d.scale, d.magnitude_lt, d.scale_le, hmul.symm⟩
  · rintro ⟨m, t, hm, ht, h⟩
    refine ⟨⟨negative, m, t, hm, ht⟩, div_tens_eq_iff.mpr ?_⟩
    rw [coefficient, ← withSign_mul, ← withSign_mul, h]

theorem abs_withSign_sub (negative : Bool) (m n s t : Nat) :
    |(withSign negative m : ℚ) / tens s - withSign negative n / tens t| =
      |(m : ℚ) / tens s - n / tens t| := by
  cases negative with
  | false => rfl
  | true =>
    have hneg : (withSign true m : ℚ) / tens s - withSign true n / tens t =
        -((m : ℚ) / tens s - n / tens t) := by
      simp only [withSign, if_true]
      push_cast
      ring
    rw [hneg, abs_neg]

theorem withSign_div_eq_iff {negative : Bool} {m n s t : Nat} :
    (withSign negative m : ℚ) / tens s = withSign negative n / tens t ↔
      (m : ℚ) / tens s = n / tens t := by
  rw [← sub_eq_zero, ← abs_eq_zero, abs_withSign_sub, abs_eq_zero, sub_eq_zero]

theorem abs_div_sub_div_le {a b c u : ℚ} (hu : 0 < u) (h : |a - b| ≤ c) :
    |a / u - b / u| ≤ c / u := by
  rw [← sub_div, abs_div, abs_of_pos hu]
  exact (div_le_div_iff_of_pos_right hu).mpr h

theorem roundDiv_cases (tie : Tie) (n d : Nat) :
    roundDiv tie n d = n / d ∧ 2 * (n % d) ≤ d ∨
      roundDiv tie n d = n / d + 1 ∧ d ≤ 2 * (n % d) := by
  simp only [roundDiv]
  split
  · next hlow => exact .inl ⟨rfl, hlow.le⟩
  · next hlow =>
    split
    · next hhigh => exact .inr ⟨rfl, hhigh.le⟩
    · next hhigh =>
      cases tie with
      | away => exact .inr ⟨rfl, Nat.not_lt.mp hlow⟩
      | even =>
        rcases Nat.mod_two_eq_zero_or_one (n / d) with hq | hq
        · exact .inl ⟨by simp only [hq, Nat.add_zero], Nat.not_lt.mp hhigh⟩
        · exact .inr ⟨by simp only [hq], Nat.not_lt.mp hlow⟩

theorem abs_roundDiv_sub_le {tie : Tie} {n d : Nat} (hd : 0 < d) :
    |(roundDiv tie n d : ℚ) - n / d| ≤ 1 / 2 := by
  have hpos : (0 : ℚ) < d := Nat.cast_pos.mpr hd
  have hdiv : (n : ℚ) / d = (n / d : Nat) + (n % d : Nat) / d := by
    rw [eq_comm, eq_div_iff hpos.ne', add_mul, div_mul_cancel₀ _ hpos.ne']
    exact_mod_cast Nat.div_add_mod' n d
  have hlt : ((n % d : Nat) : ℚ) / d < 1 :=
    (div_lt_one hpos).mpr (Nat.cast_lt.mpr (Nat.mod_lt n hd))
  have hnonneg : (0 : ℚ) ≤ (n % d : Nat) / d := by positivity
  rw [hdiv, abs_le]
  rcases roundDiv_cases tie n d with ⟨hround, h⟩ | ⟨hround, h⟩
  · have hhalf : ((n % d : Nat) : ℚ) / d ≤ 1 / 2 := by
      have h : (2 * (n % d : Nat) : ℚ) ≤ d := by exact_mod_cast h
      rw [div_le_iff₀ hpos]
      linarith
    rw [hround]
    constructor <;> linarith
  · have hhalf : (1 : ℚ) / 2 ≤ (n % d : Nat) / d := by
      have h : (d : ℚ) ≤ 2 * (n % d : Nat) := by exact_mod_cast h
      rw [le_div_iff₀ hpos]
      linarith
    rw [hround]
    push_cast
    constructor <;> linarith

theorem roundDiv_of_dvd {tie : Tie} {n d : Nat} (hd : 0 < d) (h : d ∣ n) :
    roundDiv tie n d = n / d := by
  unfold roundDiv
  rw [Nat.mod_eq_zero_of_dvd h]
  simp [hd]

end Decimal

end PathQuery
