import PathQuery.Xml.Reference

namespace PathQuery.Xml

def isSpace (c : Char) : Bool := c == ' ' || c == '\n' || c == '\t' || c == '\r'

abbrev Attribute := String × String

def quoted? (cs : List Char) : Option (String × List Char) :=
  match cs with
  | [] => none
  | quote :: cs =>
    if quote = '"' ∨ quote = '\'' then
      match cs.dropWhile (· != quote) with
      | [] => none
      | _ :: rest =>
        (unescape? none (cs.takeWhile (· != quote))).map fun v => (String.ofList v, rest)
    else none

def attribute? (c : Char) (cs : List Char) : Option (Attribute × List Char) :=
  let inName := fun c => c != '=' && !isSpace c
  let name := String.ofList (c :: cs.takeWhile inName)
  match (cs.dropWhile inName).dropWhile isSpace with
  | '=' :: rest => (quoted? (rest.dropWhile isSpace)).map fun (value, rest) => ((name, value), rest)
  | _ => none

def attributesWithin? : Nat → List Char → Option (List Attribute)
  | 0, cs => if cs.all isSpace then some [] else none
  | fuel + 1, cs =>
    match cs.dropWhile isSpace with
    | [] => some []
    | c :: cs => do
      let (a, rest) ← attribute? c cs
      let as ← attributesWithin? fuel rest
      return a :: as

def areDistinct : List String → Bool
  | [] => true
  | name :: names => !names.contains name && areDistinct names

def attributes? (cs : List Char) : Option (List Attribute) :=
  (attributesWithin? cs.length cs).filter fun as => areDistinct (as.map (·.1))

end PathQuery.Xml
