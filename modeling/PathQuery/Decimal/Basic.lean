import PathQuery.Power

namespace PathQuery

structure Decimal where
  isNegative : Bool
  magnitude : Nat
  scale : Nat
  magnitude_lt : magnitude < twos 96 := by decide
  scale_le : scale ≤ 28 := by decide
deriving DecidableEq, Repr

namespace Decimal

def bound : Nat := twos 96

def maxScale : Nat := 28

def zero : Decimal := ⟨false, 0, 0, by decide, by decide⟩

instance : Inhabited Decimal := ⟨zero⟩

def ofSigned? (isNegative : Bool) (magnitude scale : Nat) : Option Decimal :=
  if h : magnitude < bound ∧ scale ≤ maxScale then
    some ⟨isNegative, magnitude, scale, h.1, h.2⟩
  else none

def ofParts? (coefficient : Int) (scale : Nat) : Option Decimal :=
  ofSigned? (coefficient < 0) coefficient.natAbs scale

def ofInt? (n : Int) : Option Decimal := ofParts? n 0

theorem ofSigned?_eq_some {b : Bool} {m s : Nat} {d : Decimal} :
    ofSigned? b m s = some d ↔ d.isNegative = b ∧ d.magnitude = m ∧ d.scale = s := by
  unfold ofSigned?
  constructor
  · intro h
    split at h
    · cases h; exact ⟨rfl, rfl, rfl⟩
    · cases h
  · rintro ⟨rfl, rfl, rfl⟩
    rw [dif_pos ⟨d.magnitude_lt, d.scale_le⟩]

def withSign (isNegative : Bool) (magnitude : Nat) : Int :=
  if isNegative then -(magnitude : Int) else magnitude

theorem natAbs_withSign (b : Bool) (n : Nat) : (withSign b n).natAbs = n := by
  cases b
  · rfl
  · exact (Int.natAbs_neg n).trans (Int.natAbs_natCast n)

def coefficient (d : Decimal) : Int := withSign d.isNegative d.magnitude

theorem natAbs_coefficient (d : Decimal) : d.coefficient.natAbs = d.magnitude :=
  natAbs_withSign d.isNegative d.magnitude

theorem ofParts?_eq_some {c : Int} {s : Nat} {d : Decimal} (h : ofParts? c s = some d) :
    d.coefficient = c ∧ d.scale = s := by
  obtain ⟨hb, hm, hs⟩ := ofSigned?_eq_some.mp h
  refine ⟨?_, hs⟩
  rw [coefficient, hb, hm]
  by_cases hc : c < 0
  · rw [decide_eq_true hc]
    exact (congrArg Neg.neg (Int.ofNat_natAbs_of_nonpos (Int.le_of_lt hc))).trans (Int.neg_neg c)
  · rw [decide_eq_false hc]
    exact Int.natAbs_of_nonneg (Int.not_lt.mp hc)

def coefficientAt (d : Decimal) (scale : Nat) : Int :=
  d.coefficient * tens (scale - d.scale)

def compare (a b : Decimal) : Ordering :=
  let s := max a.scale b.scale
  Ord.compare (a.coefficientAt s) (b.coefficientAt s)

def sameNumber (a b : Decimal) : Bool := a.compare b == .eq

def less (a b : Decimal) : Bool := a.compare b == .lt

def isZero (d : Decimal) : Bool := d.magnitude == 0

def neg (d : Decimal) : Decimal :=
  if d.isZero then d else { d with isNegative := !d.isNegative }

def max (a b : Decimal) : Decimal := if a.less b then b else a

def min (a b : Decimal) : Decimal := if b.less a then b else a

def trunc (d : Decimal) : Int := d.coefficient.tdiv (tens d.scale)

def isIntegral (d : Decimal) : Bool := d.coefficient.tmod (tens d.scale) == 0

def magnitudeText (n scale : Nat) : List Char :=
  let digits := (Nat.repr n).toList
  let padded := List.replicate (scale + 1 - digits.length) '0' ++ digits
  let whole := padded.take (padded.length - scale)
  if scale == 0 then whole else whole ++ '.' :: padded.drop (padded.length - scale)

def text (d : Decimal) : String :=
  let magnitude := magnitudeText d.magnitude d.scale
  String.ofList (if d.isNegative then '-' :: magnitude else magnitude)

end Decimal
end PathQuery
