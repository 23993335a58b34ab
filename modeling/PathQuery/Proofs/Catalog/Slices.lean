import Mathlib.Data.Rat.Floor
import PathQuery.Proofs.Catalog.Dispatch
import PathQuery.Proofs.Decimal.Value

namespace PathQuery

def integerPart (x : ℚ) : ℤ := if 0 ≤ x then ⌊x⌋ else ⌈x⌉

namespace Decimal

variable {d : Decimal} {n : Nat}

theorem value_nonneg_iff : 0 ≤ d.value ↔ 0 ≤ d.coefficient := by
  have htens : (0 : ℚ) < tens d.scale := Nat.cast_pos.mpr (tens_pos _)
  rw [value, le_div_iff₀ htens, zero_mul, Int.cast_nonneg_iff]

theorem trunc_eq_integerPart (d : Decimal) : d.trunc = integerPart d.value := by
  unfold integerPart
  split
  · next h =>
    rw [value, Rat.floor_intCast_div_natCast]
    exact Int.tdiv_eq_ediv_of_nonneg (value_nonneg_iff.mp h)
  · next h =>
    have hneg : 0 ≤ -d.coefficient := by
      have hlt := not_le.mp (mt value_nonneg_iff.mpr h)
      omega
    rw [value, Rat.ceil_intCast_div_natCast, ← Int.tdiv_eq_ediv_of_nonneg hneg, Int.neg_tdiv, neg_neg]
    rfl

theorem div_tens_lt (d : Decimal) : d.magnitude / tens d.scale < twos 96 :=
  (Nat.div_le_self ..).trans_lt d.magnitude_lt

def whole (d : Decimal) : Decimal :=
  ⟨d.isNegative, d.magnitude / tens d.scale, 0, d.div_tens_lt, zero.scale_le⟩

def word? (d : Decimal) : Option Nat := if d.magnitude < twos 64 then some d.magnitude else none

theorem trunc_eq_whole (d : Decimal) : d.trunc = d.whole.coefficient := by
  rw [trunc, coefficient, coefficient, whole]
  cases d.isNegative with
  | false => exact Int.ofNat_tdiv ..
  | true => exact (Int.neg_tdiv ..).trans (congrArg Neg.neg (Int.ofNat_tdiv ..))

end Decimal

namespace Call

variable {d : Decimal} {length : Nat}

theorem clamp_cast (d : Decimal) (length : Nat) :
    (clamp d length : ℤ) = min (max (integerPart d.value) 0) length := by
  rw [clamp, Nat.cast_min, Int.toNat_eq_max, d.trunc_eq_integerPart]

def wordClamp (d : Decimal) (length : Nat) : Nat :=
  if d.whole.isNegative then 0 else (d.whole.word?).elim length (min · length)

theorem clamp_eq_wordClamp (h : length ≤ twos 64) : clamp d length = wordClamp d length := by
  unfold clamp wordClamp
  rw [d.trunc_eq_whole, Decimal.coefficient]
  cases d.whole.isNegative with
  | true => simp [Decimal.withSign]
  | false =>
    show min d.whole.magnitude length = d.whole.word?.elim length (min · length)
    unfold Decimal.word?
    split
    · rfl
    · next hlarge =>
      -- More than a word holds is more than there are characters.
      exact Nat.min_eq_right (h.trans (Nat.not_lt.mp hlarge))

theorem take_append_drop (n : Nat) (s : String) :
    String.ofList (s.toList.take n) ++ String.ofList (s.toList.drop n) = s := by
  rw [← String.ofList_append, List.take_append_drop, String.ofList_toList]

theorem dropRight_append_takeRight (n : Nat) (s : String) :
    String.ofList (dropRight n s.toList) ++ String.ofList (takeRight n s.toList) = s :=
  take_append_drop (s.toList.length - n) s

theorem length_take_clamp (d : Decimal) (s : String) :
    (String.ofList (s.toList.take (clamp d s.toList.length))).length = clamp d s.length := by
  rw [String.length_ofList, List.length_take, String.length_toList]
  exact Nat.min_eq_left (clamp_le ..)

theorem length_takeRight_clamp (d : Decimal) (s : String) :
    (String.ofList (takeRight (clamp d s.toList.length) s.toList)).length = clamp d s.length := by
  rw [String.length_ofList, takeRight, List.length_drop, String.length_toList]
  exact Nat.sub_sub_self (clamp_le ..)

theorem slices_split (codecs : Codecs) (s : String) (d : Decimal) :
    ∃ left rest front right : String,
      Builtin.left.call codecs (.string s) [.number d] 1 = .ok (.string left) ∧
      Builtin.trimLeft.call codecs (.string s) [.number d] 1 = .ok (.string rest) ∧
      Builtin.trimRight.call codecs (.string s) [.number d] 1 = .ok (.string front) ∧
      Builtin.right.call codecs (.string s) [.number d] 1 = .ok (.string right) ∧
      left ++ rest = s ∧ front ++ right = s ∧
      (left.length : ℤ) = min (max (integerPart d.value) 0) s.length ∧
      (right.length : ℤ) = min (max (integerPart d.value) 0) s.length ∧
      (s.length ≤ twos 64 →
        left.length = wordClamp d s.length ∧ right.length = wordClamp d s.length) := by
  refine ⟨_, _, _, _, rfl, rfl, rfl, rfl, ?_, ?_, ?_, ?_, ?_⟩
  · exact take_append_drop _ s
  · exact dropRight_append_takeRight _ s
  · rw [length_take_clamp, clamp_cast]
  · rw [length_takeRight_clamp, clamp_cast]
  · intro h
    rw [length_take_clamp, length_takeRight_clamp, clamp_eq_wordClamp h]
    exact ⟨rfl, rfl⟩

theorem slices_split_naive :
    let s : String := "naïve"
    let half : Decimal := ⟨false, 25, 1, by decide, by decide⟩
    let largest : Decimal := ⟨false, 79228162514264337593543950335, 0, by decide, by decide⟩
    let codecs : Codecs := .none .bare
    s.length ≤ twos 64 ∧ s.utf8ByteSize = 6 ∧
    (∃ left right : String,
      Builtin.left.call codecs (.string s) [.number half] 1 = .ok (.string left) ∧
      Builtin.right.call codecs (.string s) [.number half] 1 = .ok (.string right) ∧
      left.length = 2 ∧ right.length = 2) ∧
    ∃ left right : String,
      Builtin.left.call codecs (.string s) [.number largest] 1 = .ok (.string left) ∧
      Builtin.right.call codecs (.string s) [.number largest] 1 = .ok (.string right) ∧
      left.length = 5 ∧ right.length = 5 := by
  intro s half largest codecs
  have hlength : s.length ≤ twos 64 := by decide
  refine ⟨hlength, by decide, ?_, ?_⟩
  · obtain ⟨left, -, -, right, hl, -, -, hr, -, -, -, -, hwords⟩ := slices_split codecs s half
    obtain ⟨hleft, hright⟩ := hwords hlength
    have htwo : wordClamp half s.length = 2 := by decide
    exact ⟨left, right, hl, hr, hleft.trans htwo, hright.trans htwo⟩
  · obtain ⟨left, -, -, right, hl, -, -, hr, -, -, -, -, hwords⟩ := slices_split codecs s largest
    obtain ⟨hleft, hright⟩ := hwords hlength
    have hfive : wordClamp largest s.length = 5 := by decide
    exact ⟨left, right, hl, hr, hleft.trans hfive, hright.trans hfive⟩

end Call

end PathQuery
