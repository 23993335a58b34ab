import PathQuery.Proofs.Text.Fold

namespace PathQuery.Text

open String (utf8EncodeChar)

def lowerByte (b : UInt8) : UInt8 := if 65 ≤ b ∧ b ≤ 90 then b + 32 else b

def lowerBytes (s : String) : List UInt8 := s.toUTF8.data.toList.map lowerByte

theorem lowerByte_of_le {b : UInt8} (h : 128 ≤ b.toNat) : lowerByte b = b := by
  refine if_neg fun hb => ?_
  have hle : b.toNat ≤ 90 := UInt8.le_iff_toNat_le.mp hb.2
  omega

theorem le_toNat_ofNat {n : Nat} (hle : 128 ≤ n) (hlt : n < 256) : 128 ≤ (UInt8.ofNat n).toNat := by
  rw [UInt8.toNat_ofNat', Nat.mod_eq_of_lt hlt]
  exact hle

theorem le_of_mem_utf8EncodeChar {c : Char} (h : ¬c.toNat < 128) {b : UInt8}
    (hb : b ∈ utf8EncodeChar c) : 128 ≤ b.toNat := by
  have hn : ¬c.val.toNat ≤ 127 := fun hle => h (Nat.lt_succ_of_le hle)
  simp only [utf8EncodeChar, if_neg hn] at hb
  split at hb
  · simp only [List.mem_cons, List.not_mem_nil, or_false] at hb
    rcases hb with rfl | rfl <;> exact le_toNat_ofNat (by omega) (by omega)
  · split at hb
    · simp only [List.mem_cons, List.not_mem_nil, or_false] at hb
      rcases hb with rfl | rfl | rfl <;> exact le_toNat_ofNat (by omega) (by omega)
    · simp only [List.mem_cons, List.not_mem_nil, or_false] at hb
      rcases hb with rfl | rfl | rfl | rfl <;> exact le_toNat_ofNat (by omega) (by omega)

theorem map_lowerByte (c : Char) :
    (utf8EncodeChar c).map lowerByte = utf8EncodeChar c.toLower := by
  by_cases h : c.toNat < 128
  · have hall : ∀ n < 128, (utf8EncodeChar (Char.ofNat n)).map lowerByte =
        utf8EncodeChar (Char.ofNat n).toLower := by decide
    simpa only [Char.ofNat_toNat] using hall c.toNat h
  · have hid : (utf8EncodeChar c).map lowerByte = (utf8EncodeChar c).map id :=
      List.map_congr_left fun b hb => lowerByte_of_le (le_of_mem_utf8EncodeChar h hb)
    rw [toLower_of_le h, hid, List.map_id]

theorem lowerBytes_eq (s : String) :
    lowerBytes s = (s.toList.map Char.toLower).flatMap utf8EncodeChar := by
  have hbytes : s.toUTF8.data.toList = s.toList.flatMap utf8EncodeChar := by
    rw [String.toUTF8_eq_toByteArray, ← String.utf8Encode_toList, List.utf8Encode,
      List.data_toByteArray]
  rw [lowerBytes, hbytes, List.map_flatMap, List.flatMap_map]
  simp only [map_lowerByte]

theorem flatMap_utf8EncodeChar_injective {cs ds : List Char}
    (h : cs.flatMap utf8EncodeChar = ds.flatMap utf8EncodeChar) : cs = ds := by
  have hbytes : (String.ofList cs).toByteArray = (String.ofList ds).toByteArray := by
    rw [String.toByteArray_ofList, String.toByteArray_ofList, List.utf8Encode, List.utf8Encode, h]
  have htexts := congrArg String.toList (String.toByteArray_inj.mp hbytes)
  rwa [String.toList_ofList, String.toList_ofList] at htexts

theorem sameAscii_eq (a b : String) : sameAscii a b = (lowerBytes a == lowerBytes b) := by
  rw [Bool.eq_iff_iff, sameAscii, beq_iff_eq, beq_iff_eq, lowerBytes_eq, lowerBytes_eq]
  constructor
  · intro h
    rw [h]
  · exact flatMap_utf8EncodeChar_injective

def sameUnder (low : Char → List Char) (a b : String) : Bool :=
  lowerBytes a == lowerBytes b || a.toList.flatMap low == b.toList.flatMap low

theorem sameName_eq_sameUnder : sameName = sameUnder lower := by
  funext a b
  rw [sameName, sameUnder, sameAscii_eq]
  rfl

namespace LowersAscii

variable {low : Char → List Char} {a b : String}

theorem sameUnder_iff (h : LowersAscii low) :
    sameUnder low a b = true ↔ a.toList.flatMap low = b.toList.flatMap low := by
  rw [sameUnder, ← sameAscii_eq, Bool.or_eq_true, beq_iff_eq]
  constructor
  · rintro (hascii | hlow)
    · exact h.flatMap_eq hascii
    · exact hlow
  · exact .inr

theorem sameUnder_equivalence (h : LowersAscii low) :
    Equivalence fun a b => sameUnder low a b = true where
  refl _ := h.sameUnder_iff.mpr rfl
  symm hab := h.sameUnder_iff.mpr (h.sameUnder_iff.mp hab).symm
  trans hab hbc := h.sameUnder_iff.mpr ((h.sameUnder_iff.mp hab).trans (h.sameUnder_iff.mp hbc))

end LowersAscii

theorem sameName_isEquivalence :
    (∀ a b, sameName a b = true ↔ fold a = fold b) ∧
      Equivalence (fun a b => sameName a b = true) ∧
      sameName = sameUnder lower ∧
      ∀ low, LowersAscii low →
        (∀ a b, sameUnder low a b = true ↔ a.toList.flatMap low = b.toList.flatMap low) ∧
          Equivalence fun a b => sameUnder low a b = true := by
  have hequivalence := lowersAscii_lower.sameUnder_equivalence
  rw [← sameName_eq_sameUnder] at hequivalence
  refine ⟨?_, hequivalence, sameName_eq_sameUnder, ?_⟩
  · intro a b
    exact sameName_iff
  · intro low h
    refine ⟨?_, h.sameUnder_equivalence⟩
    intro a b
    exact h.sameUnder_iff

theorem sameName_isEquivalence_kelvin :
    LowersAscii lower ∧ lowerBytes "OK" = lowerBytes "ok" ∧
      lowerBytes "ok" ≠ lowerBytes "o\u212a" ∧ sameUnder lower "OK" "o\u212a" = true ∧
      sameName "o\u212a" "OK" = true := by
  obtain ⟨-, hequivalence, hsame, hall⟩ := sameName_isEquivalence
  obtain ⟨hiff, htrans⟩ := hall lower lowersAscii_lower
  have hbytes : lowerBytes "OK" = lowerBytes "ok" := by decide +kernel
  have hkelvin : sameUnder lower "ok" "o\u212a" = true := (hiff _ _).mpr (by decide +kernel)
  have hok : sameUnder lower "OK" "ok" = true := by rw [sameUnder, hbytes, beq_self_eq_true]; rfl
  have hfirst := htrans.trans hok hkelvin
  refine ⟨lowersAscii_lower, hbytes, by decide +kernel, hfirst, ?_⟩
  exact hequivalence.symm (hsame ▸ hfirst)

end PathQuery.Text
