import PathQuery.Toml.Item
import PathQuery.Power

namespace PathQuery.Toml

abbrev Scanned (α : Type) := α × List Char

def isSpace (c : Char) : Bool := c == ' ' || c == '\t'

def isPlain (c : Char) : Bool := c == '\t' || (32 ≤ c.toNat && c.toNat != 127)

def newline? : List Char → Option (List Char)
  | '\n' :: cs => some cs
  | '\r' :: '\n' :: cs => some cs
  | _ => none

def skipNewline (cs : List Char) : List Char := (newline? cs).getD cs

def codePoint? (count : Nat) (cs : List Char) : Option (Scanned Char) := do
  let ds ← (cs.take count).mapM Text.hexValue?
  if ds.length = count then
    let c ← Text.scalar? (Text.digitsValue 16 ds)
    return (c, cs.drop count)
  else none

def escape? : List Char → Option (Scanned Char)
  | 'b' :: cs => some ('\x08', cs)
  | 't' :: cs => some ('\t', cs)
  | 'n' :: cs => some ('\n', cs)
  | 'f' :: cs => some ('\x0c', cs)
  | 'r' :: cs => some ('\r', cs)
  | '"' :: cs => some ('"', cs)
  | '\\' :: cs => some ('\\', cs)
  | 'u' :: cs => codePoint? 4 cs
  | 'U' :: cs => codePoint? 8 cs
  | _ => none

structure StringForm where
  quote : Char
  hasEscapes : Bool

def StringForm.basic : StringForm := ⟨'"', true⟩
def StringForm.literal : StringForm := ⟨'\'', false⟩

namespace StringForm

def lineWithin? (f : StringForm) : Nat → List Char → Option (Scanned (List Char))
  | 0, _ => none
  | _, [] => none
  | fuel + 1, c :: cs =>
    if c = f.quote then some ([], cs)
    else if c = '\\' ∧ f.hasEscapes then do
      let (e, cs) ← escape? cs
      let (s, rest) ← f.lineWithin? fuel cs
      return (e :: s, rest)
    else if isPlain c then (f.lineWithin? fuel cs).map fun (s, rest) => (c :: s, rest)
    else none

def isBlank (c : Char) : Bool := isSpace c || c == '\n'

def skipBlanks : List Char → List Char
  | '\r' :: '\n' :: cs => skipBlanks cs
  | c :: cs => if isBlank c then skipBlanks cs else c :: cs
  | [] => []

def continued? (cs : List Char) : Option (List Char) :=
  (newline? (cs.dropWhile isSpace)).map skipBlanks

def linesWithin? (f : StringForm) : Nat → List Char → Option (Scanned (List Char))
  | 0, _ => none
  | _, [] => none
  | fuel + 1, c :: cs =>
    if c = f.quote then
      let count := ((c :: cs).takeWhile (· == c)).length
      if count < 3 then
        (f.linesWithin? fuel ((c :: cs).drop count)).map fun (s, rest) =>
          (List.replicate count c ++ s, rest)
      else
        let inside := min (count - 3) 2
        some (List.replicate inside c, (c :: cs).drop (inside + 3))
    else if c = '\\' ∧ f.hasEscapes then
      match continued? cs with
      | some cs => f.linesWithin? fuel cs
      | none => do
        let (e, cs) ← escape? cs
        let (s, rest) ← f.linesWithin? fuel cs
        return (e :: s, rest)
    else
      match newline? (c :: cs) with
      | some cs => (f.linesWithin? fuel cs).map fun (s, rest) => ('\n' :: s, rest)
      | none =>
        if isPlain c then (f.linesWithin? fuel cs).map fun (s, rest) => (c :: s, rest) else none

def line? (f : StringForm) (cs : List Char) : Option (Scanned String) :=
  (f.lineWithin? (cs.length + 1) cs).map fun (s, rest) => (String.ofList s, rest)

def string? (f : StringForm) (cs : List Char) : Option (Scanned String) :=
  if cs.take 2 = [f.quote, f.quote] then
    let cs := skipNewline (cs.drop 2)
    (f.linesWithin? (cs.length + 1) cs).map fun (s, rest) => (String.ofList s, rest)
  else f.line? cs

end StringForm

def digitGroup? (isDigit : Char → Bool) : List Char → Option (Scanned (List Char))
  | [] => none
  | [c] => if isDigit c then some ([c], []) else none
  | c :: '_' :: cs =>
    if isDigit c then (digitGroup? isDigit cs).map fun (ds, rest) => (c :: ds, rest) else none
  | c :: d :: cs =>
    if isDigit c then
      if isDigit d then (digitGroup? isDigit (d :: cs)).map fun (ds, rest) => (c :: ds, rest)
      else some ([c], d :: cs)
    else none

def sign (cs : List Char) : Bool × List Char :=
  match cs with
  | '-' :: cs => (true, cs)
  | '+' :: cs => (false, cs)
  | cs => (false, cs)

def whole? (cs : List Char) : Option (Scanned (List Char)) :=
  match cs with
  | '0' :: cs => some (['0'], cs)
  | cs => digitGroup? Char.isDigit cs

def bounded? (n : Int) : Option Item :=
  if -(twos 63 : Int) ≤ n ∧ n < twos 63 then some (.integer n) else none

def isDigitOf (base : Nat) (c : Char) : Bool :=
  match Text.hexValue? c with
  | some n => n < base
  | none => false

def basedInteger? (base : Nat) (cs : List Char) : Option (Scanned Item) := do
  let (ds, rest) ← digitGroup? (isDigitOf base) cs
  let item ← bounded? (Text.digitsValue base (ds.filterMap Text.hexValue?))
  return (item, rest)

def integer? (cs : List Char) : Option (Scanned Item) :=
  match cs with
  | '0' :: 'x' :: cs => basedInteger? 16 cs
  | '0' :: 'o' :: cs => basedInteger? 8 cs
  | '0' :: 'b' :: cs => basedInteger? 2 cs
  | cs => do
    let (negative, cs) := sign cs
    let (ds, rest) ← whole? cs
    let n : Int := Text.decimalValue ds
    let item ← bounded? (if negative then -n else n)
    return (item, rest)

def power? (cs : List Char) : Option (Scanned Int) := do
  let (negative, cs) := sign cs
  let (ds, rest) ← digitGroup? Char.isDigit cs
  let n : Int := Text.decimalValue ds
  return (if negative then -n else n, rest)

def optionalPower? (cs : List Char) : Option (Scanned Int) :=
  match cs with
  | 'e' :: cs | 'E' :: cs => power? cs
  | cs => some (0, cs)

-- A number that is too large is refused, unless it is negative.
def finiteOr? (x : Binary64) : Option Item :=
  if x = .infinite false then none else some (.float x)

def decimal? (cs : List Char) : Option (Scanned Item) := do
  let (negative, cs) := sign cs
  let (ds, cs) ← whole? cs
  match cs with
  | '.' :: cs => do
    let (places, cs) ← digitGroup? Char.isDigit cs
    let (power, rest) ← optionalPower? cs
    let item ← finiteOr? (.ofScientific negative (Text.decimalValue (ds ++ places))
      (power - places.length))
    return (item, rest)
  | 'e' :: cs | 'E' :: cs => do
    let (power, rest) ← power? cs
    let item ← finiteOr? (.ofScientific negative (Text.decimalValue ds) power)
    return (item, rest)
  | _ => none

def specialFloat? (cs : List Char) : Option (Scanned Item) :=
  match sign cs with
  | (negative, 'i' :: 'n' :: 'f' :: rest) => some (.float (.infinite negative), rest)
  | (_, 'n' :: 'a' :: 'n' :: rest) => some (.float .notANumber, rest)
  | _ => none

def number? (cs : List Char) : Option (Scanned Item) :=
  ((moment? cs).map fun (m, rest) => (Item.moment m, rest)).or
    ((decimal? cs).or ((specialFloat? cs).or (integer? cs)))

def scalar? (cs : List Char) : Option (Scanned Item) :=
  match cs with
  | '"' :: cs => (StringForm.basic.string? cs).map fun (s, rest) => (.string s, rest)
  | '\'' :: cs => (StringForm.literal.string? cs).map fun (s, rest) => (.string s, rest)
  | 't' :: 'r' :: 'u' :: 'e' :: rest => some (.bool true, rest)
  | 'f' :: 'a' :: 'l' :: 's' :: 'e' :: rest => some (.bool false, rest)
  | cs => number? cs

end PathQuery.Toml
