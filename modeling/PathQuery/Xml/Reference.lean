import PathQuery.Text.Character

namespace PathQuery.Xml

def digitsValue? (base : Nat) (cs : List Char) : Option Nat :=
  match cs.mapM Text.hexValue? with
  | some [] => none
  | some ds => if ds.all (· < base) then some (Text.digitsValue base ds) else none
  | none => none

def codePoint? (cs : List Char) : Option Char := do
  let n ← match cs with
    | 'x' :: digits => digitsValue? 16 digits
    | digits => digitsValue? 10 digits
  if n = 0 then none else Text.scalar? n

def named? (name : String) : Option Char :=
  match name with
  | "lt" => some '<'
  | "gt" => some '>'
  | "amp" => some '&'
  | "apos" => some '\''
  | "quot" => some '"'
  | _ => none

def referenced? (cs : List Char) : Option Char :=
  match cs with
  | '#' :: digits => codePoint? digits
  | name => named? (String.ofList name)

def unescape? : Option (List Char) → List Char → Option (List Char)
  | none, [] => some []
  | some _, [] => none
  | none, '&' :: cs => unescape? (some []) cs
  | none, c :: cs => (unescape? none cs).map (c :: ·)
  | some name, ';' :: cs => do
    let c ← referenced? name.reverse
    (unescape? none cs).map (c :: ·)
  | some _, '&' :: _ => none
  | some name, c :: cs => unescape? (some (c :: name)) cs

end PathQuery.Xml
