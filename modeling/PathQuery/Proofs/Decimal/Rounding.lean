import PathQuery.Decimal.Arithmetic
import PathQuery.Proofs.Decimal.Value

namespace PathQuery.Decimal

structure IsRounding (d : Decimal) (x : ℚ) : Prop where
  exact : Held x → d.value = x
  half : |d.value - x| ≤ 1 / 2 / tens d.scale
  near : |d.value - x| ≤ 1 / 2 / tens maxScale ∨ |d.value - x| ≤ |x| / tens maxScale

def IsResult (x : ℚ) : Option Decimal → Prop
  | some d => d.IsRounding x ∧ |x| < bound - 1 / 2
  | none => bound - 1 / 2 ≤ |x|

section RoundDiv

variable {tie : Tie} {n d m : Nat}

theorem roundDiv_le (hd : 0 < d) (h : n ≤ m * d) : roundDiv tie n d ≤ m := by
  have hle : n / d ≤ m := Nat.div_le_of_le_mul (by rwa [Nat.mul_comm])
  rcases roundDiv_cases tie n d with ⟨hround, -⟩ | ⟨hround, hhalf⟩
  · rwa [hround]
  · have hne : n / d ≠ m := by
      rintro rfl
      have hmod := Nat.div_add_mod' n d
      omega
    omega

theorem le_roundDiv_even_iff (hd : 0 < d) (hm : m % 2 = 0) :
    m ≤ roundDiv .even n d ↔ 2 * m * d ≤ 2 * n + d := by
  have hn : 2 * n + d = 2 * (n % d) + d * (2 * (n / d) + 1) := by
    have hmod := Nat.div_add_mod n d
    rw [Nat.mul_add, Nat.mul_left_comm, Nat.mul_one]
    omega
  have hr := Nat.mod_lt n hd
  rw [← Nat.le_div_iff_mul_le hd, hn, Nat.add_mul_div_left _ _ hd]
  have hsmall : 2 * (n % d) / d = if 2 * (n % d) < d then 0 else 1 := by
    split
    · next h => exact Nat.div_eq_of_lt h
    · next h => exact Nat.div_eq_of_lt_le (by omega) (by omega)
  simp only [roundDiv, hsmall]
  split_ifs <;> omega

theorem bound_le_roundDiv_iff (hd : 0 < d) :
    bound ≤ roundDiv .even n d ↔ (bound : ℚ) - 1 / 2 ≤ n / d := by
  have hpos : (0 : ℚ) < d := Nat.cast_pos.mpr hd
  rw [le_roundDiv_even_iff hd (by decide), le_div_iff₀ hpos]
  have hcast : 2 * bound * d ≤ 2 * n + d ↔ (2 * bound * d : ℚ) ≤ 2 * n + d := by
    norm_cast
  rw [hcast]
  constructor <;> intro h <;> linarith

end RoundDiv

theorem firstFrom?_eq_find? (test : Nat → Bool) (start fuel : Nat) :
    firstFrom? test start fuel = (List.range' start fuel).find? test := by
  induction fuel generalizing start with
  | zero => rfl
  | succ fuel ih =>
    rw [firstFrom?, List.range'_succ, List.find?_cons, ih]
    cases test start <;> rfl

theorem Fits.exists_le {n places : Nat} (h : Fits n places) :
    ∃ c t, c < bound ∧ t ≤ maxScale ∧ t ≤ places ∧ n = c * tens (places - t) := by
  obtain ⟨c, t, hc, ht, hct⟩ := h
  rcases Nat.le_total t places with hle | hge
  · refine ⟨c, t, hc, ht, hle, Nat.eq_of_mul_eq_mul_right (tens_pos t) ?_⟩
    rw [hct, Nat.mul_assoc, ← tens_add, Nat.sub_add_cancel hle]
  · have hn : n * tens (t - places) = c := by
      refine Nat.eq_of_mul_eq_mul_right (tens_pos places) ?_
      rw [← hct, Nat.mul_assoc, ← tens_add, Nat.sub_add_cancel hge]
    have hle : n ≤ c := hn ▸ Nat.le_mul_of_pos_right n (tens_pos _)
    refine ⟨n, places, hle.trans_lt hc, hge.trans ht, le_rfl, ?_⟩
    rw [Nat.sub_self, tens_zero, Nat.mul_one]

structure Reduces (n places m s : Nat) : Prop where
  le : s ≤ places
  scale_le : s ≤ maxScale
  eq : m = roundDiv .even n (tens (places - s))
  lt : m < bound
  most : ∀ t, s < t → t ≤ places → t ≤ maxScale → bound ≤ roundDiv .even n (tens (places - t))

section Reduce

variable {n places m s : Nat}

theorem reduce?_eq_some (h : reduce? bound maxScale n places = some (m, s)) :
    Reduces n places m s := by
  obtain ⟨k, hk, heq⟩ := Option.map_eq_some_iff.mp h
  obtain ⟨rfl, rfl⟩ := Prod.mk.inj heq
  rw [firstFrom?_eq_find?, List.find?_range'_eq_some] at hk
  obtain ⟨htest, hmem, hfirst⟩ := hk
  rw [List.mem_range'_1] at hmem
  have hk : places - (places - k) = k := by omega
  refine ⟨by omega, by omega, by rw [hk], of_decide_eq_true htest, ?_⟩
  intro t hst htp hts
  have hnot := hfirst (places - t) (by omega) (by omega)
  simpa using hnot

theorem reduce?_eq_none_iff :
    reduce? bound maxScale n places = none ↔ (bound : ℚ) - 1 / 2 ≤ n / tens places := by
  rw [reduce?, Option.map_eq_none_iff, firstFrom?_eq_find?, List.find?_range'_eq_none]
  have htest (k : Nat) : (!decide (roundDiv .even n (tens k) < bound)) = true ↔
      (bound : ℚ) - 1 / 2 ≤ n / tens k := by
    rw [← bound_le_roundDiv_iff (tens_pos k)]
    simp
  simp only [htest]
  constructor
  · exact fun h => h places (by omega) (by omega)
  · -- With fewer places cut off the magnitude is larger still.
    intro h k _ hk
    have hle : k ≤ places := by omega
    refine h.trans (div_le_div_of_nonneg_left (Nat.cast_nonneg n) (tens_cast_pos k) ?_)
    exact Nat.cast_le.mpr (Nat.pow_le_pow_right (by decide) hle)

namespace Reduces

theorem cast_div (h : s ≤ places) :
    (n : ℚ) / tens places = n / tens (places - s) / tens s := by
  rw [div_div, ← Nat.cast_mul, ← tens_add, Nat.sub_add_cancel h]

theorem half (h : Reduces n places m s) :
    |(m : ℚ) / tens s - n / tens places| ≤ 1 / 2 / tens s := by
  rw [cast_div h.le, h.eq]
  exact abs_div_sub_div_le (tens_cast_pos s) (abs_roundDiv_sub_le (tens_pos _))

theorem exact (h : Reduces n places m s) (hfits : Fits n places) :
    (m : ℚ) / tens s = n / tens places := by
  obtain ⟨c, t, hc, ht, htp, rfl⟩ := hfits.exists_le
  have hts : t ≤ s := by
    by_contra hlt
    have hmost := h.most t (Nat.not_le.mp hlt) htp ht
    have hround : roundDiv .even (c * tens (places - t)) (tens (places - t)) ≤ c :=
      roundDiv_le (tens_pos _) le_rfl
    omega
  have hdvd : tens (places - s) ∣ c * tens (places - t) := by
    refine Dvd.dvd.mul_left ⟨tens (s - t), ?_⟩ c
    rw [← tens_add, Nat.sub_add_sub_cancel h.le hts]
  rw [cast_div h.le, h.eq, roundDiv_of_dvd (tens_pos _) hdvd,
    Nat.cast_div hdvd (tens_cast_ne_zero _)]

theorem near (h : Reduces n places m s) :
    |(m : ℚ) / tens s - n / tens places| ≤ 1 / 2 / tens maxScale ∨
      |(m : ℚ) / tens s - n / tens places| ≤ n / tens places / tens maxScale := by
  by_cases hmax : s = maxScale
  · exact .inl (hmax ▸ h.half)
  · by_cases hplaces : s = places
    · have hexact : (m : ℚ) / tens s = n / tens places := by
        rw [h.eq, hplaces, Nat.sub_self, roundDiv_of_dvd (tens_pos 0) ⟨n, (Nat.one_mul n).symm⟩,
          tens_zero, Nat.div_one]
      have hpos := tens_cast_pos maxScale
      exact .inl (by rw [hexact, sub_self, abs_zero]; positivity)
    · -- One more place would have been too much, so the number is large.
      have hle := h.le
      have hscale := h.scale_le
      have hlarge : (bound : ℚ) - 1 / 2 ≤ n / tens (places - (s + 1)) :=
        (bound_le_roundDiv_iff (tens_pos _)).mp (h.most (s + 1) (by omega) (by omega) (by omega))
      have hunit : (1 : ℚ) / 2 / tens s = 5 / tens (s + 1) := by
        have hs := tens_cast_ne_zero s
        rw [tens_succ, Nat.cast_mul]
        field_simp
        norm_num
      refine .inr (h.half.trans ?_)
      rw [hunit, cast_div (s := s + 1) (by omega), div_right_comm]
      refine (div_le_div_iff_of_pos_right (tens_cast_pos _)).mpr ?_
      rw [le_div_iff₀ (tens_cast_pos _)]
      refine le_trans ?_ hlarge
      norm_num [bound, twos, tens, maxScale]

end Reduces

end Reduce

section Signs

variable {negative : Bool} {n places m s : Nat} {d : Decimal}

theorem withSign_zero (negative : Bool) : withSign negative 0 = 0 := by cases negative <;> rfl

theorem withSign_natAbs (c : Int) : withSign (c < 0) c.natAbs = c := by
  by_cases hc : c < 0
  · rw [decide_eq_true hc]
    simp only [withSign, if_true]
    omega
  · rw [decide_eq_false hc]
    simp only [withSign, Bool.false_eq_true, if_false]
    omega

theorem abs_withSign_div (negative : Bool) (n s : Nat) :
    |(withSign negative n : ℚ) / tens s| = n / tens s := by
  have hsub := abs_withSign_sub negative n 0 s s
  rw [withSign_zero, Int.cast_zero, Nat.cast_zero, zero_div, sub_zero, sub_zero] at hsub
  rw [hsub]
  exact abs_of_nonneg (div_nonneg (Nat.cast_nonneg n) (tens_cast_pos s).le)

theorem Reduces.isRounding (h : Reduces n places m s) (hc : d.coefficient = withSign negative m)
    (hs : d.scale = s) : d.IsRounding (withSign negative n / tens places) := by
  have hvalue : d.value = withSign negative m / tens s := by rw [value, hc, hs]
  refine ⟨fun hheld => ?_, ?_, ?_⟩
  · rw [hvalue, withSign_div_eq_iff]
    exact h.exact (held_iff_fits.mp hheld)
  · rw [hvalue, hs, abs_withSign_sub]
    exact h.half
  · rw [hvalue, abs_withSign_sub, abs_withSign_div]
    exact h.near

theorem isResult_reduce {build : Nat × Nat → Option Decimal}
    (hbuild : ∀ m s, m < bound → s ≤ maxScale →
      ∃ d, build (m, s) = some d ∧ d.coefficient = withSign negative m ∧ d.scale = s) :
    IsResult (withSign negative n / tens places) ((reduce? bound maxScale n places).bind build) := by
  cases hr : reduce? bound maxScale n places with
  | none =>
    rw [Option.bind_none, IsResult, abs_withSign_div]
    exact reduce?_eq_none_iff.mp hr
  | some r =>
    obtain ⟨m, s⟩ := r
    have hreduces := reduce?_eq_some hr
    obtain ⟨d, hd, hc, hs⟩ := hbuild m s hreduces.lt hreduces.scale_le
    rw [Option.bind_some, hd, IsResult, abs_withSign_div]
    refine ⟨hreduces.isRounding hc hs, lt_of_not_ge fun hlarge => ?_⟩
    rw [reduce?_eq_none_iff.mpr hlarge] at hr
    cases hr

theorem ofSigned?_of_lt (hm : m < bound) (hs : s ≤ maxScale) :
    ofSigned? negative m s = some ⟨negative, m, s, hm, hs⟩ :=
  ofSigned?_eq_some.mpr ⟨rfl, rfl, rfl⟩

theorem fit?_isResult (c : Int) (s : Nat) : IsResult (c / tens s) (fit? c s) := by
  have hresult : IsResult (withSign (c < 0) c.natAbs / tens s) (fit? c s) := by
    refine isResult_reduce fun m s hm hs => ?_
    have hparts : ofParts? (withSign (c < 0) m) s =
        some ⟨decide (withSign (c < 0) m < 0), m, s, hm, hs⟩ := by
      rw [ofParts?, natAbs_withSign, ofSigned?_of_lt hm hs]
    exact ⟨_, hparts, ofParts?_eq_some hparts⟩
  rwa [withSign_natAbs] at hresult

end Signs

end PathQuery.Decimal
