import PathQuery.Json.Basic
import PathQuery.Text.Character

namespace PathQuery.Json

def escape (c : Char) : List Char :=
  match c with
  | '"' => ['\\', '"']
  | '\\' => ['\\', '\\']
  | '\n' => ['\\', 'n']
  | '\r' => ['\\', 'r']
  | '\t' => ['\\', 't']
  | '\x08' => ['\\', 'b']
  | '\x0c' => ['\\', 'f']
  | c => if c.toNat < 32 then '\\' :: 'u' :: Text.hex4 c.toNat else [c]

def stringText (s : String) : List Char := '"' :: s.toList.flatMap escape ++ ['"']

structure Layout where
  newline : Nat → List Char
  colon : List Char

def compact : Layout := ⟨fun _ => [], [':']⟩

def indented : Layout := ⟨fun depth => '\n' :: List.replicate (2 * depth) ' ', [':', ' ']⟩

mutual

def chars (l : Layout) (depth : Nat) : Json → List Char
  | .null => "null".toList
  | .bool b => if b then "true".toList else "false".toList
  | .number text => text.toList
  | .string s => stringText s
  | .array [] => ['[', ']']
  | .array (j :: items) =>
    '[' :: l.newline (depth + 1) ++ chars l (depth + 1) j ++ itemChars l (depth + 1) items ++
      l.newline depth ++ [']']
  | .object [] => ['{', '}']
  | .object ((name, j) :: members) =>
    '{' :: l.newline (depth + 1) ++ stringText name ++ l.colon ++ chars l (depth + 1) j ++
      memberChars l (depth + 1) members ++ l.newline depth ++ ['}']

def itemChars (l : Layout) (depth : Nat) : List Json → List Char
  | [] => []
  | j :: items => ',' :: l.newline depth ++ chars l depth j ++ itemChars l depth items

def memberChars (l : Layout) (depth : Nat) : List (String × Json) → List Char
  | [] => []
  | (name, j) :: members =>
    ',' :: l.newline depth ++ stringText name ++ l.colon ++ chars l depth j ++
      memberChars l depth members

end

def text (j : Json) : String := String.ofList (chars compact 0 j)

def prettyText (j : Json) : String := String.ofList (chars indented 0 j)

end PathQuery.Json
