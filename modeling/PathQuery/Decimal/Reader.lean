import PathQuery.Decimal.Basic
import PathQuery.Decimal.Rounding
import PathQuery.Text.Character
import PathQuery.Power

namespace PathQuery.Decimal

structure Digits where
  value : Nat
  scale : Nat
  afterPoint : Bool
  started : Bool
  full : Bool

def Digits.empty : Digits := ⟨0, 0, false, false, false⟩

def roundUp? (value scale : Nat) : Option (Nat × Nat) :=
  if value + 1 < bound then some (value + 1, scale)
  else if scale = 0 then none
  else some ((value + 1 + 4) / 10, scale - 1)

def Digits.push? (ds : Digits) (digit : Nat) : Option Digits :=
  let next := ds.value * 10 + digit
  if ds.afterPoint then
    if ds.scale < maxScale ∧ next < bound then
      some { ds with value := next, scale := ds.scale + 1, started := true }
    else if 5 ≤ digit then
      (roundUp? ds.value ds.scale).map fun (value, scale) =>
        { ds with value := value, scale := scale, full := true }
    else some { ds with full := true }
  else if next < bound then some { ds with value := next, started := true }
  else none

-- The first digit without a place decides how the number is rounded; the text behind it is left.
def readDigits? (ds : Digits) : List Char → Option (Digits × List Char)
  | [] => if ds.started then some (ds, []) else none
  | c :: cs =>
    if c.isDigit then
      match ds.push? (c.toNat - '0'.toNat) with
      | some ds => if ds.full then some (ds, cs) else readDigits? ds cs
      | none => none
    else if c = '_' ∧ ds.started then readDigits? ds cs
    else if c = '.' ∧ ¬ ds.afterPoint then readDigits? { ds with afterPoint := true } cs
    else none

-- An exponent may not be left: such a text is read as a scientific one.
def isIgnored (rest : List Char) : Bool := rest.all fun c => c.isDigit || c == '_'

section Leaving

variable (leaves : List Char → Bool)

def signed? (negative : Bool) (cs : List Char) : Option Decimal :=
  (readDigits? .empty cs).bind fun (ds, rest) =>
    if leaves rest then ofParts? (withSign negative ds.value) ds.scale else none

def readPlain? : List Char → Option Decimal
  | '+' :: cs => signed? leaves false cs
  | '-' :: cs => signed? leaves true cs
  | cs => signed? leaves false cs

end Leaving

def readExponent? (cs : List Char) : Option Nat :=
  let digits := match cs with
    | '+' :: rest => rest
    | rest => rest
  if digits ≠ [] ∧ digits.all Char.isDigit ∧ Text.decimalValue digits < twos 32 then
    some (Text.decimalValue digits)
  else none

def shiftLeft? (d : Decimal) (exponent : Nat) : Option Decimal :=
  if maxScale < exponent then none
  else if d.scale + exponent ≤ maxScale then
    ofSigned? d.isNegative d.magnitude (d.scale + exponent)
  else
    ofSigned? d.isNegative (roundDiv .away d.magnitude (tens (d.scale + exponent - maxScale)))
      maxScale

def shiftRight? (d : Decimal) (exponent : Nat) : Option Decimal :=
  if maxScale < exponent then none
  else if exponent ≤ d.scale then ofParts? d.coefficient (d.scale - exponent)
  else ofParts? (d.coefficient * tens (exponent - d.scale)) 0

def isExponentMark (c : Char) : Bool := c == 'e' || c == 'E'

def beforeMark (cs : List Char) : List Char := cs.takeWhile (!isExponentMark ·)

def readScientific? (leaves : List Char → Bool) (cs : List Char) : Option Decimal :=
  match cs.dropWhile (!isExponentMark ·) with
  | [] => none
  | _ :: exponent =>
    (readPlain? leaves (beforeMark cs)).bind fun base =>
      match exponent with
      | '-' :: digits => (readExponent? digits).bind (shiftLeft? base)
      | digits => (readExponent? digits).bind (shiftRight? base)

def readLeaving? (leaves : List Char → Bool) (text : String) : Option Decimal :=
  (readPlain? leaves text.toList).or (readScientific? leaves text.toList)

def read? (text : String) : Option Decimal := readLeaving? isIgnored text

end PathQuery.Decimal
