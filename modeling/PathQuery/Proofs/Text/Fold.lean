import PathQuery.Text.Fold

namespace PathQuery.Text

variable {a b c : String}

theorem toNat_toLower_lt {c : Char} (h : c.toNat < 128) : c.toLower.toNat < 128 := by
  delta Char.toLower
  split
  · next hc =>
    have hz : c.val.toNat ≤ 90 := UInt32.le_iff_toNat_le.mp hc.2
    have hshift : ('a'.val - 'A'.val).toNat = 32 := rfl
    change (c.val + ('a'.val - 'A'.val)).toNat < 128
    rw [UInt32.toNat_add, hshift]
    omega
  · exact h

theorem toLower_toLower (c : Char) : c.toLower.toLower = c.toLower := by
  delta Char.toLower
  grind

theorem toLower_of_le {c : Char} (h : ¬c.toNat < 128) : c.toLower = c := by
  delta Char.toLower
  refine dif_neg fun hc => h ?_
  exact Nat.lt_of_le_of_lt (UInt32.le_iff_toNat_le.mp hc.2) (by decide)

theorem toUpper_toLower (c : Char) : c.toLower.toUpper = c.toUpper := by
  by_cases h : c.toNat < 128
  · have hall : ∀ n < 128, (Char.ofNat n).toLower.toUpper = (Char.ofNat n).toUpper := by decide
    simpa only [Char.ofNat_toNat] using hall c.toNat h
  · rw [toLower_of_le h]

def LowersAscii (low : Char → List Char) : Prop := ∀ c : Char, c.toNat < 128 → low c = [c.toLower]

theorem lowersAscii_lower : LowersAscii lower := fun _ h => lower_ascii h

namespace LowersAscii

variable {low : Char → List Char}

theorem map_toLower (h : LowersAscii low) (c : Char) : low c.toLower = low c := by
  by_cases hc : c.toNat < 128
  · rw [h c hc, h c.toLower (toNat_toLower_lt hc), toLower_toLower]
  · rw [toLower_of_le hc]

theorem flatMap_eq (h : LowersAscii low) (hab : sameAscii a b = true) :
    a.toList.flatMap low = b.toList.flatMap low := by
  have hlow (s : String) : s.toList.flatMap low = (s.toList.map Char.toLower).flatMap low := by
    simp [List.flatMap_map, h.map_toLower]
  rw [hlow, hlow, beq_iff_eq.mp hab]

end LowersAscii

theorem fold_of_sameAscii (h : sameAscii a b = true) : fold a = fold b :=
  lowersAscii_lower.flatMap_eq h

theorem sameName_iff : sameName a b = true ↔ fold a = fold b := by
  simp only [sameName, Bool.or_eq_true, beq_iff_eq]
  exact ⟨fun h => h.elim fold_of_sameAscii id, .inr⟩

theorem sameName_trans (hab : sameName a b = true) (hbc : sameName b c = true) :
    sameName a c = true := sameName_iff.mpr ((sameName_iff.mp hab).trans (sameName_iff.mp hbc))

end PathQuery.Text
