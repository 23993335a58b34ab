import PathQuery.Proofs.Decimal.Arithmetic

namespace PathQuery.Decimal

variable {a b : Decimal}

theorem compare_coefficientAt {s : Nat} (ha : a.scale ≤ s) (hb : b.scale ≤ s) :
    Ord.compare (a.coefficientAt s) (b.coefficientAt s) = Ord.compare a.value b.value := by
  have hmono : StrictMono fun c : Int => (c : ℚ) / tens s := by
    intro c d hlt
    exact (div_lt_div_iff_of_pos_right (tens_cast_pos s)).mpr (Int.cast_lt.mpr hlt)
  have hcmp := hmono.cmp_map_eq (a.coefficientAt s) (b.coefficientAt s)
  rw [value_eq_coefficientAt ha, value_eq_coefficientAt hb, ← cmp_eq_compare, ← cmp_eq_compare]
  exact hcmp.symm

theorem compare_value (a b : Decimal) : a.compare b = Ord.compare a.value b.value :=
  compare_coefficientAt (Nat.le_max_left ..) (Nat.le_max_right ..)

instance : Std.TransCmp compare where
  eq_swap {a b} := by
    rw [compare_value, compare_value]
    exact Std.OrientedOrd.eq_swap
  isLE_trans {a b c} hab hbc := by
    rw [compare_value] at hab hbc ⊢
    exact Std.TransOrd.isLE_trans hab hbc

theorem less_iff : a.less b = true ↔ a.value < b.value := by
  rw [less, beq_iff_eq, compare_value, compare_lt_iff_lt]

def Picks (R : ℚ → ℚ → Prop) (pick : Decimal → Decimal → Decimal) : Prop :=
  ∀ a b, pick a b = a ∧ R b.value a.value ∨ pick a b = b ∧ R a.value b.value

theorem max_picks : Picks (· ≤ ·) max := by
  intro a b
  unfold max
  split
  · next h => exact .inr ⟨rfl, (less_iff.mp h).le⟩
  · next h => exact .inl ⟨rfl, not_lt.mp (mt less_iff.mpr h)⟩

theorem min_picks : Picks (· ≥ ·) min := by
  intro a b
  unfold min
  split
  · next h => exact .inr ⟨rfl, (less_iff.mp h).le⟩
  · next h => exact .inl ⟨rfl, not_lt.mp (mt less_iff.mpr h)⟩

section Picking

variable {R : ℚ → ℚ → Prop} {pick : Decimal → Decimal → Decimal}

structure IsPick (R : ℚ → ℚ → Prop) (m : Decimal) (ds : List Decimal) : Prop where
  mem : m ∈ ds
  all : ∀ d ∈ ds, R d.value m.value

theorem Picks.foldl [IsPreorder ℚ R] (h : Picks R pick) (d : Decimal) (ds : List Decimal) :
    IsPick R (ds.foldl pick d) (d :: ds) := by
  induction ds generalizing d with
  | nil =>
    refine ⟨List.mem_singleton_self d, ?_⟩
    intro e he
    obtain rfl := List.mem_singleton.mp he
    exact refl _
  | cons e ds ih =>
    obtain ⟨hmem, hall⟩ := ih (pick d e)
    have hfirst : R (pick d e).value (ds.foldl pick (pick d e)).value :=
      hall _ (List.mem_cons_self ..)
    -- The picked one stands for both of the first two.
    have hboth : pick d e ∈ [d, e] ∧ R d.value (pick d e).value ∧ R e.value (pick d e).value := by
      rcases h d e with ⟨heq, hle⟩ | ⟨heq, hle⟩ <;> rw [heq]
      · exact ⟨by simp, refl _, hle⟩
      · exact ⟨by simp, hle, refl _⟩
    refine ⟨?_, ?_⟩
    · rcases List.mem_cons.mp hmem with heq | hlater
      · rw [List.foldl_cons, heq]
        exact List.mem_append_left ds hboth.1
      · exact List.mem_cons_of_mem _ (List.mem_cons_of_mem _ hlater)
    · refine List.forall_mem_cons.mpr ⟨IsTrans.trans _ _ _ hboth.2.1 hfirst, ?_⟩
      refine List.forall_mem_cons.mpr ⟨IsTrans.trans _ _ _ hboth.2.2 hfirst, ?_⟩
      exact fun d hd => hall d (List.mem_cons_of_mem _ hd)

theorem IsPick.value_eq [Std.Antisymm R] {m m' : Decimal} {ds ds' : List Decimal}
    (h : IsPick R m ds) (h' : IsPick R m' ds') (hperm : ds'.Perm ds) : m'.value = m.value :=
  antisymm (h.all m' (hperm.mem_iff.mp h'.mem)) (h'.all m (hperm.mem_iff.mpr h.mem))

end Picking

end PathQuery.Decimal
