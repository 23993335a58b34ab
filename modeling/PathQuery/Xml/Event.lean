import PathQuery.Xml.Attribute

namespace PathQuery.Xml

inductive Event where
  | openTag (name : String) (attributes : List Attribute)
  | emptyTag (name : String) (attributes : List Attribute)
  | closeTag
  | text (s : String)
  | entity (name : String)
  | other
  | malformed
deriving DecidableEq, Repr

def splitAt? (mark : List Char) : List Char → Option (List Char × List Char)
  | [] => none
  | c :: cs =>
    if mark.isPrefixOf (c :: cs) then some ([], (c :: cs).drop mark.length)
    else (splitAt? mark cs).map fun (before, rest) => (c :: before, rest)

def tagBody? : Option Char → List Char → Option (List Char × List Char)
  | _, [] => none
  | none, c :: cs =>
    if c = '>' then some ([], cs)
    else
      let quote? := if c = '"' ∨ c = '\'' then some c else none
      (tagBody? quote? cs).map fun (body, rest) => (c :: body, rest)
  | some quote, c :: cs =>
    (tagBody? (if c = quote then none else some quote) cs).map fun (body, rest) => (c :: body, rest)

inductive DoctypePlace where
  | outside
  | subset
  | markup
  | comment
  | instruction

def afterDoctype? : DoctypePlace → Option Char → List Char → Option (List Char)
  | _, _, [] => none
  | place, some quote, c :: cs => afterDoctype? place (if c = quote then none else some quote) cs
  | .comment, none, '-' :: '-' :: '>' :: cs => afterDoctype? .subset none cs
  | .comment, none, _ :: cs => afterDoctype? .comment none cs
  | .instruction, none, '?' :: '>' :: cs => afterDoctype? .subset none cs
  | .instruction, none, _ :: cs => afterDoctype? .instruction none cs
  | .subset, none, '<' :: '!' :: '-' :: '-' :: cs => afterDoctype? .comment none cs
  | .subset, none, '<' :: '?' :: cs => afterDoctype? .instruction none cs
  | .subset, none, '<' :: cs => afterDoctype? .markup none cs
  | .subset, none, ']' :: cs => afterDoctype? .outside none cs
  | .subset, none, _ :: cs => afterDoctype? .subset none cs
  | .outside, none, '>' :: cs => some cs
  | .outside, none, '[' :: cs => afterDoctype? .subset none cs
  | .markup, none, '>' :: cs => afterDoctype? .subset none cs
  | place, none, c :: cs => afterDoctype? place (if c = '"' ∨ c = '\'' then some c else none) cs

def doctype? (cs : List Char) : Option (List Char) :=
  if (cs.take 7).map Char.toLower = "doctype".toList then
    match (cs.drop 7).dropWhile isSpace with
    | '>' :: _ => none
    | rest => afterDoctype? .outside none rest
  else none

abbrev Step := Event × List String × List Char

def startTag? (opened : List String) (cs : List Char) : Option Step := do
  let (body, rest) ← tagBody? none cs
  let isEmpty := body.getLast? == some '/'
  let body := if isEmpty then body.dropLast else body
  let name := String.ofList (body.takeWhile fun c => !isSpace c)
  let as ← attributes? (body.dropWhile fun c => !isSpace c)
  return if isEmpty then (.emptyTag name as, opened, rest) else (.openTag name as, name :: opened, rest)

def trimEnd (cs : List Char) : List Char := (cs.reverse.dropWhile isSpace).reverse

def endTag? (opened : List String) (cs : List Char) : Option Step := do
  let (body, rest) ← tagBody? none cs
  let name := String.ofList (if body.all isSpace then body else trimEnd body)
  match opened with
  | innermost :: opened => if innermost = name then some (.closeTag, opened, rest) else none
  | [] => none

def markup? (opened : List String) (cs : List Char) : Option Step :=
  match cs with
  | '!' :: '-' :: '-' :: cs => (splitAt? "-->".toList cs).map fun (_, rest) => (.other, opened, rest)
  | '!' :: '[' :: 'C' :: 'D' :: 'A' :: 'T' :: 'A' :: '[' :: cs =>
    (splitAt? "]]>".toList cs).map fun (s, rest) => (.text (String.ofList s), opened, rest)
  | '!' :: cs => (doctype? cs).map fun rest => (.other, opened, rest)
  | '?' :: '>' :: _ => none
  | '?' :: cs => (splitAt? "?>".toList cs).map fun (_, rest) => (.other, opened, rest)
  | '/' :: cs => endTag? opened cs
  | cs => startTag? opened cs

def isReferenceEnd (c : Char) : Bool := c == ';' || c == '&' || c == '<'

def reference? (opened : List String) (cs : List Char) : Option Step :=
  match cs.dropWhile fun c => !isReferenceEnd c with
  | ';' :: rest =>
    match cs.takeWhile fun c => !isReferenceEnd c with
    | '#' :: digits => (codePoint? digits).map fun c => (.text c.toString, opened, rest)
    | name => some (.entity (String.ofList name), opened, rest)
  | _ => none

def isText (c : Char) : Bool := c != '<' && c != '&'

def first? (opened : List String) (cs : List Char) : Option Step :=
  match cs with
  | '<' :: cs => markup? opened cs
  | '&' :: cs => reference? opened cs
  | cs => some (.text (String.ofList (cs.takeWhile isText)), opened, cs.dropWhile isText)

def eventsWithin : Nat → List String → List Char → List Event
  | 0, _, _ => []
  | _ + 1, _, [] => []
  | fuel + 1, opened, c :: cs =>
    match first? opened (c :: cs) with
    | some (e, opened, rest) => e :: eventsWithin fuel opened rest
    | none => [.malformed]

def events (text : String) : List Event := eventsWithin text.length [] text.toList

end PathQuery.Xml
