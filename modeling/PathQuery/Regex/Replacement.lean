import PathQuery.Regex.Search
import PathQuery.Power

namespace PathQuery.Regex

def matchesWithin (p : Program) : Nat → Nat → Option Char → Option Nat → List Char → List Slots
  | 0, _, _, _, _ => []
  | fuel + 1, index, before, lastEnd, cs =>
    match find? p index before cs with
    | none => []
    | some slots =>
      match slots.span? 0 with
      | none => []
      | some (first, last) =>
        if first = last ∧ lastEnd = some last then
          match cs with
          | [] => []
          | c :: cs => matchesWithin p fuel (index + 1) (some c) lastEnd cs
        else
          let before := if index < last then cs[last - index - 1]? else before
          slots :: matchesWithin p fuel last before (some last) (cs.drop (last - index))

def allMatches (p : Program) (cs : List Char) : List Slots :=
  matchesWithin p (2 * cs.length + 2) 0 none none cs

inductive Piece where
  | char (c : Char)
  | group (index : Nat)
  | named (name : String)

def isGroupChar (c : Char) : Bool := c.isAlphanum || c == '_'

def Piece.ofName (name : List Char) : Piece :=
  let digits := match name with
    | '+' :: rest => rest
    | rest => rest
  if !digits.isEmpty && digits.all Char.isDigit && Text.decimalValue digits < twos 64 then
    .group (Text.decimalValue digits)
  else .named (String.ofList name)

def piecesFrom : Nat → List Char → List Piece
  | _, [] => []
  | skip + 1, _ :: cs => piecesFrom skip cs
  | 0, '$' :: '$' :: cs => .char '$' :: piecesFrom 0 cs
  | 0, '$' :: '{' :: cs =>
    let name := cs.takeWhile (· != '}')
    if name.length < cs.length then .ofName name :: piecesFrom (name.length + 1) cs
    else .char '$' :: piecesFrom 0 ('{' :: cs)
  | 0, '$' :: cs =>
    let name := cs.takeWhile isGroupChar
    if name.isEmpty then .char '$' :: piecesFrom 0 cs
    else .ofName name :: piecesFrom name.length cs
  | 0, c :: cs => .char c :: piecesFrom 0 cs

def slice (cs : List Char) (first last : Nat) : List Char := (cs.drop first).take (last - first)

def groupText (cs : List Char) (slots : Slots) (group : Nat) : List Char :=
  match slots.span? group with
  | some (first, last) => slice cs first last
  | none => []

def Piece.expand (p : Program) (cs : List Char) (slots : Slots) : Piece → List Char
  | .char c => [c]
  | .group i => groupText cs slots i
  | .named name =>
    match p.names.find? fun n => n.1 == name with
    | some n => groupText cs slots n.2
    | none => []

def replaceFrom (p : Program) (cs : List Char) (pieces : List Piece) (index : Nat) :
    List Slots → List Char
  | [] => cs.drop index
  | slots :: rest =>
    match slots.span? 0 with
    | some (first, last) =>
      slice cs index first ++ pieces.flatMap (Piece.expand p cs slots) ++
        replaceFrom p cs pieces last rest
    | none => replaceFrom p cs pieces index rest

end PathQuery.Regex

namespace PathQuery

structure Regex where
  program : Regex.Program

namespace Regex

def ofText? (pattern : String) : Option Regex := do
  let p ← Pattern.read? pattern
  let program ← Program.ofPattern? p
  return ⟨program⟩

def isMatch (r : Regex) (s : String) : Bool := (find? r.program 0 none s.toList).isSome

def replaceAll (r : Regex) (s replacement : String) : String :=
  let cs := s.toList
  String.ofList (replaceFrom r.program cs (piecesFrom 0 replacement.toList) 0
    (allMatches r.program cs))

end Regex
end PathQuery
