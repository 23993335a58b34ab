import PathQuery.Unicode.Category
import PathQuery.Unicode.CaseFolding
import PathQuery.Unicode.Property
import PathQuery.Unicode.Script

namespace PathQuery.Regex

abbrev CharSet := Char → Bool

namespace CharSet

def empty : CharSet := fun _ => false

def union (a b : CharSet) : CharSet := fun c => a c || b c

def intersection (a b : CharSet) : CharSet := fun c => a c && b c

def difference (a b : CharSet) : CharSet := fun c => a c && !b c

def symmetricDifference (a b : CharSet) : CharSet := fun c => a c != b c

def complement (a : CharSet) : CharSet := fun c => !a c

def range (first last : Char) : CharSet := fun c => first ≤ c && c ≤ last

def ofRanges (text : String) : CharSet :=
  let ranges := Unicode.ranges text
  fun c => Unicode.covers ranges c

def caseless (a : CharSet) : CharSet := fun c => a c || (Unicode.caseOrbit c).any a

def asciiCaseless (a : CharSet) : CharSet := fun c => a c || a c.toLower || a c.toUpper

def asciiWord : CharSet := fun c => c.isAlphanum || c == '_'

def asciiSpace : CharSet := fun c => (9 ≤ c.toNat && c.toNat ≤ 13) || c == ' '

def digit : CharSet :=
  let beyond := ofRanges ((Unicode.category? "nd").getD "")
  fun c => c.isDigit || (128 ≤ c.toNat && beyond c)

def word : CharSet :=
  let texts := ((Unicode.property? "alphabetic").toList ++
    ["mn", "mc", "me", "nd", "pc"].filterMap Unicode.category?)
  let sets := texts.map ofRanges
  fun c => asciiWord c || (128 ≤ c.toNat &&
    (c.toNat == 0x200C || c.toNat == 0x200D || sets.any fun s => s c))

def space : CharSet := Text.isBlank

def ascii? : String → Option CharSet
  | "alnum" => some Char.isAlphanum
  | "alpha" => some Char.isAlpha
  | "ascii" => some fun c => c.toNat < 128
  | "blank" => some fun c => c == ' ' || c == '\t'
  | "cntrl" => some fun c => c.toNat < 32 || c.toNat == 127
  | "digit" => some Char.isDigit
  | "graph" => some (range '!' '~')
  | "lower" => some Char.isLower
  | "print" => some (range ' ' '~')
  | "punct" => some fun c => range '!' '~' c && !c.isAlphanum
  | "space" => some asciiSpace
  | "upper" => some Char.isUpper
  | "word" => some asciiWord
  | "xdigit" => some fun c => (Text.hexValue? c).isSome
  | _ => none

end CharSet

inductive Look where
  | textStart | textEnd
  | lineStart | lineEnd
  | crlfLineStart | crlfLineEnd
  | boundary (word : CharSet)
  | noBoundary (word : CharSet)
  | wordStart (word : CharSet)
  | wordEnd (word : CharSet)
  | wordStartHalf (word : CharSet)
  | wordEndHalf (word : CharSet)

def Look.holds (l : Look) (before after : Option Char) : Bool :=
  match l with
  | .textStart => before.isNone
  | .textEnd => after.isNone
  | .lineStart => before.isNone || before == some '\n'
  | .lineEnd => after.isNone || after == some '\n'
  | .crlfLineStart =>
    before.isNone || before == some '\n' || (before == some '\r' && after != some '\n')
  | .crlfLineEnd =>
    after.isNone || after == some '\r' || (after == some '\n' && before != some '\r')
  | .boundary word => before.any word != after.any word
  | .noBoundary word => before.any word == after.any word
  | .wordStart word => !before.any word && after.any word
  | .wordEnd word => before.any word && !after.any word
  | .wordStartHalf word => !before.any word
  | .wordEndHalf word => !after.any word

inductive Expr where
  | empty
  | one (set : CharSet)
  | look (l : Look)
  | capture (index : Nat) (e : Expr)
  | seq (a b : Expr)
  | alt (a b : Expr)
  | repeated (least : Nat) (most : Option Nat) (greedy : Bool) (e : Expr)

namespace Expr

def consumes : Expr → Bool
  | .empty | .look _ => false
  | .one _ => true
  | .capture _ e => e.consumes
  | .seq a b => a.consumes || b.consumes
  | .alt a b => a.consumes && b.consumes
  | .repeated least _ _ e => 0 < least && e.consumes

def sequence : List Expr → Expr
  | [] => .empty
  | [e] => e
  | e :: es => .seq e (sequence es)

def choice : List Expr → Expr
  | [] => .empty
  | [e] => e
  | e :: es => .alt e (choice es)

end Expr
end PathQuery.Regex
