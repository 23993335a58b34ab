import PathQuery.Decimal.Basic
import PathQuery.Decimal.Remainder
import PathQuery.Decimal.Rounding
import PathQuery.Power

namespace PathQuery.Decimal

def fit? (coefficient : Int) (scale : Nat) : Option Decimal :=
  (reduce? bound maxScale coefficient.natAbs scale).bind fun (n, s) =>
    ofParts? (withSign (coefficient < 0) n) s

-- A zero operand leaves the other one as it is, places included.
def add? (a b : Decimal) : Option Decimal :=
  if a.isZero then some b
  else if b.isZero then some a
  else
    let s := Nat.max a.scale b.scale
    fit? (a.coefficientAt s + b.coefficientAt s) s

def sub? (a b : Decimal) : Option Decimal := add? a b.neg

def areShort (a b : Decimal) : Bool := a.magnitude < twos 32 && b.magnitude < twos 32

def vanishes (a b : Decimal) : Bool := areShort a b && 47 < a.scale + b.scale

-- A product that rounds to zero keeps its sign, unless both magnitudes are short.
def mul? (a b : Decimal) : Option Decimal :=
  if a.isZero || b.isZero || vanishes a b then some zero
  else
    (reduce? bound maxScale (a.magnitude * b.magnitude) (a.scale + b.scale)).bind fun (n, s) =>
      ofSigned? (a.isNegative != b.isNegative && !(n == 0 && areShort a b)) n s

def appendable (q r d : Nat) (t : Int) : Nat → Nat
  | 0 => 0
  | k + 1 =>
    if t + (k + 1) ≤ maxScale ∧ q * tens (k + 1) + r * tens (k + 1) / d < bound then k + 1
    else appendable q r d t k

def roundedQuotient? (q r d : Nat) (t : Int) : Option (Nat × Int) :=
  let up := if 2 * r < d then q else if d < 2 * r then q + 1 else q + q % 2
  if t < 0 then none
  else if up < bound then some (up, t)
  else if t = 0 then none
  else some (roundDiv .even up 10, t - 1)

def longDivision? (d : Nat) : Nat → Nat → Nat → Int → Option (Nat × Int)
  | 0, _, _, _ => none
  | fuel + 1, q, r, t =>
    if r = 0 then
      if 0 ≤ t then some (q, t)
      else
        let whole := q * tens t.natAbs
        if whole < bound then some (whole, 0) else none
    else
      let k := appendable q r d t 9
      if k = 0 then roundedQuotient? q r d t
      else longDivision? d fuel (q * tens k + r * tens k / d) (r * tens k % d) (t + k)

def dropZeros (k : Nat) (n : Nat × Nat) : Nat × Nat :=
  if k ≤ n.2 ∧ n.1 % tens k = 0 then (n.1 / tens k, n.2 - k) else n

def dropEights : Nat → Nat × Nat → Nat × Nat
  | 0, n => n
  | fuel + 1, n =>
    if n.1 % twos 32 = 0 ∧ 8 ≤ n.2 ∧ n.1 % tens 8 = 0 then
      dropEights fuel (n.1 / tens 8, n.2 - 8)
    else n

def tidy (n : Nat × Nat) : Nat × Nat :=
  dropZeros 1 (dropZeros 2 (dropZeros 4 (dropEights 4 n)))

def div? (a b : Decimal) : Option Decimal :=
  if a.isZero then some zero
  else
    let n := a.magnitude
    let d := b.magnitude
    (longDivision? d 30 (n / d) (n % d) (a.scale - b.scale)).bind fun (q, t) =>
      let (c, s) := if n % d = 0 then (q, t.toNat) else tidy (q, t.toNat)
      ofParts? (withSign (a.isNegative != b.isNegative) c) s

def rem? (a b : Decimal) : Option Decimal :=
  let s := Nat.max a.scale b.scale
  let x := a.magnitude * tens (s - a.scale)
  let y := b.magnitude * tens (s - b.scale)
  if a.isZero || x = y then some zero
  else if x < y then some a
  else ofParts? (withSign a.isNegative (remainder x y)) s

end PathQuery.Decimal
