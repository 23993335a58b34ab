import PathQuery.Evaluation.Call
import PathQuery.Proofs.Decimal.Rounding

namespace PathQuery.Decimal

section Values

variable {d : Decimal} {s : Nat}

theorem value_eq_coefficientAt (h : d.scale ≤ s) : d.value = d.coefficientAt s / tens s := by
  rw [value, coefficientAt, div_eq_div_iff (tens_cast_ne_zero _) (tens_cast_ne_zero _)]
  have hs : tens (s - d.scale) * tens d.scale = tens s := by rw [← tens_add, Nat.sub_add_cancel h]
  rw [← hs]
  push_cast
  ring

theorem abs_value (d : Decimal) : |d.value| = d.magnitude / tens d.scale :=
  abs_withSign_div d.isNegative d.magnitude d.scale

theorem value_eq_zero_iff : d.value = 0 ↔ d.isZero = true := by
  rw [← abs_eq_zero, abs_value, div_eq_zero_iff, Nat.cast_eq_zero, isZero, beq_iff_eq]
  exact or_iff_left (tens_cast_ne_zero _)

theorem value_zero : zero.value = 0 := value_eq_zero_iff.mpr rfl

theorem value_neg (d : Decimal) : d.neg.value = -d.value := by
  unfold neg
  split
  · next hz => rw [value_eq_zero_iff.mpr hz, neg_zero]
  · rw [value, value, coefficient, coefficient]
    cases d.isNegative <;> simp [withSign, neg_div]

theorem abs_value_lt (d : Decimal) : |d.value| < bound - 1 / 2 := by
  have hmagnitude : (d.magnitude : ℚ) + 1 ≤ bound := by exact_mod_cast d.magnitude_lt
  have hle : |d.value| ≤ d.magnitude := by
    rw [abs_value]
    exact div_le_self (Nat.cast_nonneg _) (Nat.one_le_cast.mpr (tens_pos _))
  linarith

theorem eq_zero_of_held {x : ℚ} (h : Held x) (hx : |x| < 1 / tens maxScale) : x = 0 := by
  obtain ⟨d, rfl⟩ := h
  rw [abs_value] at hx
  rw [value_eq_zero_iff, isZero, beq_iff_eq]
  by_contra hne
  have hone : (1 : ℚ) ≤ d.magnitude := Nat.one_le_cast.mpr (Nat.pos_of_ne_zero hne)
  have hscale : (tens d.scale : ℚ) ≤ tens maxScale :=
    Nat.cast_le.mpr (Nat.pow_le_pow_right (by decide) d.scale_le)
  have hle : 1 / (tens maxScale : ℚ) ≤ d.magnitude / tens d.scale :=
    div_le_div₀ (by linarith) hone (tens_cast_pos _) hscale
  linarith

theorem held_of_lt {c : Int} (hc : c.natAbs < bound) (hs : s ≤ maxScale) : Held (c / tens s) := by
  refine ⟨⟨c < 0, c.natAbs, s, hc, hs⟩, ?_⟩
  rw [value, coefficient, withSign_natAbs]

theorem isRounding_self (d : Decimal) : d.IsRounding d.value := by
  have hscale := tens_cast_pos d.scale
  have hmax := tens_cast_pos maxScale
  refine ⟨fun _ => rfl, ?_, .inl ?_⟩ <;> rw [sub_self, abs_zero] <;> positivity

theorem isResult_self (d : Decimal) : IsResult d.value (some d) :=
  ⟨d.isRounding_self, d.abs_value_lt⟩

theorem isResult_zero {x : ℚ} (h : |x| ≤ 1 / 2 / tens maxScale) : IsResult x (some zero) := by
  have hlast : (1 : ℚ) / 2 / tens maxScale < 1 / tens maxScale :=
    (div_lt_div_iff_of_pos_right (tens_cast_pos _)).mpr (by norm_num)
  have hhalf : (1 : ℚ) / 2 / tens maxScale ≤ 1 / 2 :=
    div_le_self (by norm_num) (Nat.one_le_cast.mpr (tens_pos _))
  have hbound : (1 : ℚ) ≤ bound - 1 / 2 := by norm_num [bound, twos]
  have hdistance : |zero.value - x| = |x| := by rw [value_zero, zero_sub, abs_neg]
  refine ⟨⟨fun hheld => ?_, ?_, .inl ?_⟩, by linarith⟩
  · rw [value_zero, eq_zero_of_held hheld (h.trans_lt hlast)]
  · have hplaces : (tens zero.scale : ℚ) = 1 := Nat.cast_one
    rw [hdistance, hplaces, div_one]
    exact h.trans hhalf
  · rwa [hdistance]

end Values

section Operations

variable (a b : Decimal)

theorem add?_isResult : IsResult (a.value + b.value) (a.add? b) := by
  unfold add?
  split
  · next ha =>
    rw [value_eq_zero_iff.mpr ha, zero_add]
    exact b.isResult_self
  · split
    · next hb =>
      rw [value_eq_zero_iff.mpr hb, add_zero]
      exact a.isResult_self
    · have ha : a.scale ≤ Nat.max a.scale b.scale := Nat.le_max_left ..
      have hb : b.scale ≤ Nat.max a.scale b.scale := Nat.le_max_right ..
      rw [value_eq_coefficientAt ha, value_eq_coefficientAt hb, ← add_div, ← Int.cast_add]
      exact fit?_isResult _ _

theorem sub?_isResult : IsResult (a.value - b.value) (a.sub? b) := by
  have h := a.add?_isResult b.neg
  rwa [value_neg, ← sub_eq_add_neg] at h

theorem withSign_mul_withSign (n n' : Bool) (m m' : Nat) :
    withSign n m * withSign n' m' = withSign (n != n') (m * m') := by
  cases n <;> cases n' <;> simp [withSign]

theorem value_mul : a.value * b.value =
    withSign (a.isNegative != b.isNegative) (a.magnitude * b.magnitude) /
      tens (a.scale + b.scale) := by
  rw [value, value, div_mul_div_comm, ← Nat.cast_mul, ← tens_add, ← Int.cast_mul, coefficient,
    coefficient, withSign_mul_withSign]

theorem abs_value_mul_le_of_vanishes (h : vanishes a b = true) :
    |a.value * b.value| ≤ 1 / 2 / tens maxScale := by
  simp only [vanishes, areShort, Bool.and_eq_true, decide_eq_true_eq] at h
  obtain ⟨⟨ha, hb⟩, hscale⟩ := h
  rw [value_mul, abs_withSign_div, div_le_div_iff₀ (tens_cast_pos _) (tens_cast_pos _)]
  have hmagnitudes : a.magnitude * b.magnitude ≤ twos 32 * twos 32 := Nat.mul_le_mul ha.le hb.le
  have hplaces : tens 48 ≤ tens (a.scale + b.scale) := Nat.pow_le_pow_right (by decide) hscale
  have hsmall : 2 * (twos 32 * twos 32 * tens maxScale) ≤ tens 48 := by decide
  have hle : 2 * (a.magnitude * b.magnitude * tens maxScale) ≤ tens (a.scale + b.scale) :=
    (Nat.mul_le_mul_left 2 (Nat.mul_le_mul_right _ hmagnitudes)).trans (hsmall.trans hplaces)
  have hcast : (2 * (a.magnitude * b.magnitude * tens maxScale) : ℚ) ≤ tens (a.scale + b.scale) := by
    exact_mod_cast hle
  push_cast
  linarith

theorem mul?_isResult : IsResult (a.value * b.value) (a.mul? b) := by
  unfold mul?
  split
  · next hz =>
    -- The product is zero, or there is no place for any of its digits.
    have hsmall : |a.value * b.value| ≤ 1 / 2 / tens maxScale := by
      simp only [Bool.or_eq_true] at hz
      have hmax := tens_cast_pos maxScale
      rcases hz with (ha | hb) | hv
      · rw [value_eq_zero_iff.mpr ha, zero_mul, abs_zero]
        positivity
      · rw [value_eq_zero_iff.mpr hb, mul_zero, abs_zero]
        positivity
      · exact a.abs_value_mul_le_of_vanishes b hv
    exact isResult_zero hsmall
  · rw [value_mul]
    refine isResult_reduce fun m s hm hs => ?_
    refine ⟨_, ofSigned?_of_lt hm hs, ?_, rfl⟩
    -- Only a zero may lose its sign.
    have hsign (negative short : Bool) :
        withSign (negative && !(m == 0 && short)) m = withSign negative m := by
      cases m with
      | zero => rw [withSign_zero, withSign_zero]
      | succ m => simp
    exact hsign _ _

end Operations

section Totals

def total (ds : List Decimal) : ℚ := (ds.map value).sum

def extent (ds : List Decimal) : ℚ := (ds.map fun d => |d.value|).sum

variable {acc d : Decimal} {ds : List Decimal}

theorem total_cons (d : Decimal) (ds : List Decimal) : total (d :: ds) = d.value + total ds := by
  rw [total, List.map_cons, List.sum_cons, total]

theorem extent_cons (d : Decimal) (ds : List Decimal) : extent (d :: ds) = |d.value| + extent ds := by
  rw [extent, List.map_cons, List.sum_cons, extent]

theorem total_perm {ds' : List Decimal} (h : ds.Perm ds') : total ds = total ds' :=
  (h.map value).sum_eq

theorem extent_perm {ds' : List Decimal} (h : ds.Perm ds') : extent ds = extent ds' :=
  (h.map fun d : Decimal => |d.value|).sum_eq

theorem IsResult.of_held {x : ℚ} {r : Option Decimal} (h : IsResult x r) (hx : Held x) :
    ∃ d, r = some d ∧ d.value = x := by
  cases r with
  | some d => exact ⟨d, rfl, h.1.exact hx⟩
  | none =>
    obtain ⟨d, rfl⟩ := hx
    exact absurd h (not_le.mpr d.abs_value_lt)

theorem total?_of_held (h : ∀ p, p <+: ds → Held (acc.value + total p)) :
    ∃ d, Call.total? acc ds = some d ∧ d.value = acc.value + total ds := by
  induction ds generalizing acc with
  | nil => exact ⟨acc, rfl, (add_zero _).symm⟩
  | cons d ds ih =>
    have hfirst : Held (acc.value + d.value) := by
      have hp := h [d] (List.prefix_cons_inj d |>.mpr List.nil_prefix)
      rwa [total_cons, total, List.map_nil, List.sum_nil, add_zero] at hp
    obtain ⟨sum, hsum, hvalue⟩ := (acc.add?_isResult d).of_held hfirst
    have hrest : ∀ p, p <+: ds → Held (sum.value + total p) := by
      intro p hp
      have hcons := h (d :: p) (List.prefix_cons_inj d |>.mpr hp)
      rwa [total_cons, ← add_assoc, ← hvalue] at hcons
    obtain ⟨e, he, htotal⟩ := ih hrest
    refine ⟨e, ?_, ?_⟩
    · rw [Call.total?, hsum, Option.bind_some, he]
    · rw [htotal, hvalue, total_cons, add_assoc]

theorem abs_total?_sub_le (h : Call.total? acc ds = some d) :
    |d.value - (acc.value + total ds)| ≤ ds.length / 2 := by
  induction ds generalizing acc with
  | nil =>
    obtain rfl := Option.some.inj h
    simp [total]
  | cons e ds ih =>
    obtain ⟨sum, hsum, hrest⟩ := Option.bind_eq_some_iff.mp h
    have hlater := ih hrest
    have hresult := acc.add?_isResult e
    rw [hsum] at hresult
    have hfirst : |sum.value - (acc.value + e.value)| ≤ 1 / 2 :=
      hresult.1.half.trans (div_le_self (by norm_num) (Nat.one_le_cast.mpr (tens_pos _)))
    have hsplit : d.value - (acc.value + total (e :: ds)) =
        (d.value - (sum.value + total ds)) + (sum.value - (acc.value + e.value)) := by
      rw [total_cons]
      ring
    have hlength : (((e :: ds).length : ℕ) : ℚ) / 2 = ds.length / 2 + 1 / 2 := by
      rw [List.length_cons]
      push_cast
      ring
    rw [hsplit, hlength]
    exact (abs_add_le _ _).trans (add_le_add hlater hfirst)

section Places

variable {s : Nat}

theorem exists_total_eq (h : ∀ d ∈ ds, d.scale ≤ s) : ∃ c : Int, total ds = c / tens s := by
  induction ds with
  | nil => exact ⟨0, by simp [total]⟩
  | cons d ds ih =>
    obtain ⟨hd, hds⟩ := List.forall_mem_cons.mp h
    obtain ⟨c, hc⟩ := ih hds
    refine ⟨d.coefficientAt s + c, ?_⟩
    rw [total_cons, hc, value_eq_coefficientAt hd, Int.cast_add, add_div]

theorem abs_total_le (ds : List Decimal) : |total ds| ≤ extent ds := by
  induction ds with
  | nil => simp [total, extent]
  | cons d ds ih =>
    rw [total_cons, extent_cons]
    exact (abs_add_le _ _).trans (by linarith)

theorem extent_append (xs ys : List Decimal) : extent (xs ++ ys) = extent xs + extent ys := by
  rw [extent, List.map_append, List.sum_append, extent, extent]

theorem extent_nonneg (ds : List Decimal) : 0 ≤ extent ds := (abs_nonneg _).trans (abs_total_le ds)

theorem held_total (hs : s ≤ maxScale) (hplaces : ∀ d ∈ ds, d.scale ≤ s)
    (hextent : extent ds * tens s < bound) : Held (total ds) := by
  obtain ⟨c, hc⟩ := exists_total_eq hplaces
  have hpos := tens_cast_pos s
  have habs : (c.natAbs : ℚ) = |total ds| * tens s := by
    rw [hc, abs_div, abs_of_pos hpos, div_mul_cancel₀ _ hpos.ne', Nat.cast_natAbs, Int.cast_abs]
  have hlt : (c.natAbs : ℚ) < bound := by
    rw [habs]
    exact (mul_le_mul_of_nonneg_right (abs_total_le ds) hpos.le).trans_lt hextent
  rw [hc]
  exact held_of_lt (Nat.cast_lt.mp hlt) hs

theorem held_total_of_prefix {p : List Decimal} (hs : s ≤ maxScale)
    (hplaces : ∀ d ∈ ds, d.scale ≤ s) (hextent : extent ds * tens s < bound) (hp : p <+: ds) :
    Held (total p) := by
  obtain ⟨rest, rfl⟩ := hp
  apply held_total hs
  · intro d hd
    exact hplaces d (List.mem_append_left rest hd)
  · refine lt_of_le_of_lt (mul_le_mul_of_nonneg_right ?_ (tens_cast_pos s).le) hextent
    rw [extent_append]
    exact le_add_of_nonneg_right (extent_nonneg rest)

end Places

end Totals

end PathQuery.Decimal
