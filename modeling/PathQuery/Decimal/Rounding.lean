import PathQuery.Power

namespace PathQuery.Decimal

inductive Tie where
  | away
  | even

def roundDiv (tie : Tie) (n d : Nat) : Nat :=
  let q := n / d
  let r := n % d
  if 2 * r < d then q
  else if d < 2 * r then q + 1
  else match tie with
    | .away => q + 1
    | .even => q + q % 2

def firstFrom? (test : Nat → Bool) (start : Nat) : Nat → Option Nat
  | 0 => none
  | fuel + 1 => if test start then some start else firstFrom? test (start + 1) fuel

def reduce? (bound maxScale n scale : Nat) : Option (Nat × Nat) :=
  (firstFrom? (fun k => roundDiv .even n (tens k) < bound) (scale - maxScale)
      (scale + 1 - (scale - maxScale))).map
    fun k => (roundDiv .even n (tens k), scale - k)

end PathQuery.Decimal
