import PathQuery.Decimal.Rounding
import PathQuery.Power

namespace PathQuery

inductive Binary64 where
  | finite (negative : Bool) (significand exponent : Nat)
  | infinite (negative : Bool)
  | notANumber
deriving DecidableEq, Repr

namespace Binary64

def places : Nat := 1074

def significandBits : Nat := 53

def maxExponent : Nat := 2045

def bits (n : Nat) : Nat := if n = 0 then 0 else n.log2 + 1

-- A significand that has been rounded up to one more bit gives it to the exponent.
def ofRounded (negative : Bool) (significand exponent : Nat) : Binary64 :=
  let carries := significand = twos significandBits
  let exponent := if carries then exponent + 1 else exponent
  if maxExponent < exponent then .infinite negative
  else .finite negative (if carries then significand / 2 else significand) exponent

def nearest (negative : Bool) (n d : Nat) : Binary64 :=
  let units := n * twos places
  let exponent := bits (units / d) - significandBits
  ofRounded negative (Decimal.roundDiv .even units (d * twos exponent)) exponent

def digitCount (n : Nat) : Nat := (Nat.toDigits 10 n).length

def ofScientific (negative : Bool) (n : Nat) (exponent : Int) : Binary64 :=
  let magnitude := digitCount n + exponent
  if n = 0 || magnitude < -330 then .finite negative 0 0
  else if 310 < magnitude then .infinite negative
  else nearest negative (n * tens exponent.toNat) (tens (-exponent).toNat)

end Binary64
end PathQuery
