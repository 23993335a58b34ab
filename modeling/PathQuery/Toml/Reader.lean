import PathQuery.Codec.Basic
import PathQuery.Toml.Scalar

namespace PathQuery.Toml

def maxDepth : Nat := 79

def isBareKey (c : Char) : Bool := c.isAlphanum || c == '_' || c == '-'

def simpleKey? (cs : List Char) : Option (Scanned String) :=
  match cs with
  | '"' :: cs => StringForm.basic.line? cs
  | '\'' :: cs => StringForm.literal.line? cs
  | cs =>
    match cs.takeWhile isBareKey with
    | [] => none
    | name => some (String.ofList name, cs.dropWhile isBareKey)

def keyWithin? : Nat → List Char → Option (Scanned (List String))
  | 0, _ => none
  | fuel + 1, cs => do
    let (name, cs) ← simpleKey? (cs.dropWhile isSpace)
    match cs.dropWhile isSpace with
    | '.' :: cs => (keyWithin? fuel cs).map fun (names, rest) => (name :: names, rest)
    | rest => some ([name], rest)

def key? (cs : List Char) : Option (Scanned (List String)) := keyWithin? maxDepth cs

def skipLines? : Bool → List Char → Option (List Char)
  | false, [] => some []
  | true, [] => none
  | _, '\n' :: cs => skipLines? false cs
  | _, '\r' :: '\n' :: cs => skipLines? false cs
  | false, c :: cs =>
    if c = '#' then skipLines? true cs
    else if isSpace c then skipLines? false cs
    else some (c :: cs)
  | true, c :: cs => if isPlain c then skipLines? true cs else none

def insertPair (key : List String) (i : Item) (ms : Members) : Option Members :=
  match key.getLast? with
  | some name => addPair key.dropLast name i .closed ms
  | none => none

mutual

def valueWithin? : Nat → Nat → List Char → Option (Scanned Item)
  | 0, _, _ => none
  | fuel + 1, depth, cs =>
    match cs with
    | '[' :: cs =>
      match depth with
      | 0 => none
      | depth + 1 => (itemsWithin? fuel depth cs).map fun (items, rest) => (.array false items, rest)
    | '{' :: cs =>
      match depth with
      | 0 => none
      | depth + 1 =>
        match cs.dropWhile isSpace with
        | '}' :: rest => some (.table .closed [], rest)
        | cs => (pairsWithin? fuel depth [] cs).map fun (ms, rest) => (.table .closed ms, rest)
    | cs => scalar? cs

def itemsWithin? : Nat → Nat → List Char → Option (Scanned (List Item))
  | 0, _, _ => none
  | fuel + 1, depth, cs => do
    match ← skipLines? false cs with
    | ']' :: rest => return ([], rest)
    | cs =>
      let (item, cs) ← valueWithin? fuel depth cs
      match ← skipLines? false cs with
      | ',' :: cs =>
        let (items, rest) ← itemsWithin? fuel depth cs
        return (item :: items, rest)
      | ']' :: rest => return ([item], rest)
      | _ => none

def pairsWithin? : Nat → Nat → Members → List Char → Option (Scanned Members)
  | 0, _, _, _ => none
  | fuel + 1, depth, ms, cs => do
    let (key, cs) ← key? cs
    match cs with
    | '=' :: cs =>
      let (item, cs) ← valueWithin? fuel depth (cs.dropWhile isSpace)
      let ms ← insertPair key item ms
      match cs.dropWhile isSpace with
      | ',' :: cs => pairsWithin? fuel depth ms cs
      | '}' :: rest => return (ms, rest)
      | _ => none
    | _ => none

end

def value? (cs : List Char) : Option (Scanned Item) := valueWithin? (2 * cs.length + 2) maxDepth cs

def lineEnd? (cs : List Char) : Option (List Char) :=
  let rest := match cs.dropWhile isSpace with
    | '#' :: cs => cs.dropWhile isPlain
    | cs => cs
  match rest with
  | [] => some []
  | rest => newline? rest

structure Document where
  root : Members
  path : List String

namespace Document

def empty : Document := ⟨[], []⟩

def change? (d : Document) (f : TableChange) (path : List String) : Option Document :=
  (f.within .implied path .header d.root).map ({ d with root := · })

def addPair? (d : Document) (key : List String) (i : Item) : Option Document := do
  let name ← key.getLast?
  d.change? (addPair key.dropLast name i) d.path

def enter? (d : Document) (key : List String) (make : Option Item → Option Item) :
    Option Document := do
  let name ← key.getLast?
  let d ← d.change? (fun _ ms => change name make ms) key.dropLast
  return { d with path := key }

def header? (d : Document) (cs : List Char) : Option (Document × List Char) := do
  let (key, cs) ← key? cs
  let rest ← mark? ']' cs
  let d ← d.enter? key openTable
  return (d, rest)

def rowHeader? (d : Document) (cs : List Char) : Option (Document × List Char) := do
  let (key, cs) ← key? cs
  let cs ← mark? ']' cs
  let rest ← mark? ']' cs
  let d ← d.enter? key openRow
  return (d, rest)

def pair? (d : Document) (cs : List Char) : Option (Document × List Char) := do
  let (key, cs) ← key? cs
  let cs ← mark? '=' cs
  let (item, rest) ← value? (cs.dropWhile isSpace)
  let d ← d.addPair? key item
  return (d, rest)

def line? (d : Document) (cs : List Char) : Option (Document × List Char) :=
  match cs.dropWhile isSpace with
  | [] => some (d, [])
  | '[' :: '[' :: cs => d.rowHeader? cs
  | '[' :: cs => d.header? cs
  | c :: cs =>
    if c = '#' ∨ c = '\n' ∨ c = '\r' then some (d, c :: cs) else d.pair? (c :: cs)

def readWithin? (d : Document) : Nat → List Char → Option Document
  | _, [] => some d
  | 0, _ => none
  | fuel + 1, cs => do
    let (d, cs) ← d.line? cs
    let cs ← lineEnd? cs
    d.readWithin? fuel cs

def skipByteOrderMark : List Char → List Char
  | '\uFEFF' :: cs => cs
  | cs => cs

def read? (text : String) : Option Document :=
  let cs := skipByteOrderMark text.toList
  empty.readWithin? (cs.length + 1) cs

end Document

def read : Reader := fun text =>
  match Document.read? text with
  | none => .error (.malformed .toml)
  | some d => (Item.table .header d.root).value.mapError .number

end PathQuery.Toml
