import PathQuery.Binary64.Basic
import PathQuery.Decimal.Basic
import PathQuery.Power

namespace PathQuery.Binary64

structure Interval where
  low : Nat
  value : Nat
  high : Nat
  unit : Nat
  closed : Bool

-- Below a power of two the neighbour is half as far.
def interval (significand exponent : Nat) : Interval where
  low := 4 * significand * twos exponent -
    (if significand = twos (significandBits - 1) && exponent != 0 then 1 else 2) * twos exponent
  value := 4 * significand * twos exponent
  high := (4 * significand + 2) * twos exponent
  unit := twos (places + 2)
  closed := significand % 2 == 0

namespace Interval

def inTens (i : Interval) (power : Int) : Interval :=
  let shift := tens (-power).toNat
  ⟨i.low * shift, i.value * shift, i.high * shift, i.unit * tens power.toNat, i.closed⟩

def contains (i : Interval) (n : Nat) : Bool :=
  let m := n * i.unit
  if i.closed then i.low ≤ m && m ≤ i.high else i.low < m && m < i.high

def whole? (i : Interval) : Option Nat :=
  let below := i.value / i.unit
  let above := below + 1
  if i.contains below && i.contains above then
    some (if 2 * i.value < (below + above) * i.unit then below else above)
  else if i.contains below then some below
  else if i.contains above then some above
  else none

def magnitude (i : Interval) : Int := digitCount (i.value * tens 400 / i.unit) - 401

def shortestFrom (i : Interval) (count : Nat) : Nat → Nat × Int
  | 0 => (i.value / i.unit, 0)
  | fuel + 1 =>
    let power := i.magnitude - count + 1
    match (i.inTens power).whole? with
    | some n => if n = tens count then (1, power + count) else (n, power)
    | none => shortestFrom i (count + 1) fuel

def shortest (i : Interval) : Nat × Int := i.shortestFrom 1 17

end Interval

def positional (digits : Nat) (power : Int) : List Char :=
  Decimal.magnitudeText (digits * tens power.toNat) (-power).toNat

def signed (negative : Bool) (text : List Char) : String :=
  String.ofList (if negative then '-' :: text else text)

def text : Binary64 → String
  | .finite negative significand exponent =>
    if significand = 0 then signed negative ['0']
    else
      let (digits, power) := (interval significand exponent).shortest
      signed negative (positional digits power)
  | .infinite negative => signed negative "inf".toList
  | .notANumber => "NaN"

end PathQuery.Binary64
