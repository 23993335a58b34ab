import PathQuery.Text.Quoted

namespace PathQuery

structure Position where
  line : Nat
  column : Nat
deriving DecidableEq, Repr

namespace Position

def start : Position := ⟨1, 1⟩

def advance (p : Position) (c : Char) : Position :=
  if c = '\n' then ⟨p.line + 1, 1⟩ else ⟨p.line, p.column + 1⟩

def after (p : Position) (cs : List Char) : Position := cs.foldl advance p

def text (p : Position) : String := Nat.repr p.line ++ ":" ++ Nat.repr p.column

end Position

inductive Token where
  | ident (name : String)
  | number (text : String)
  | string (s : String)
  | rune (c : Char)
  | invalid (reason : String)
  | endOfInput
deriving DecidableEq, Repr

namespace Token

def text : Token → String
  | .ident name => name
  | .number text => text
  | .string s => Text.quote s
  | .rune c => c.toString
  | .invalid reason => "malformed token (" ++ reason ++ ")"
  | .endOfInput => "end of input"

def description : Token → String
  | .ident s | .number s => "'" ++ s ++ "'"
  | .rune c => "'" ++ c.toString ++ "'"
  | .string s => "string " ++ Text.quote s
  | .invalid reason => "malformed token (" ++ reason ++ ")"
  | .endOfInput => "end of input"

end Token

structure PlacedToken where
  token : Token
  position : Position
deriving DecidableEq, Repr

abbrev IdentPolicy := Char → Nat → Bool

def isReserved (c : Char) : Bool :=
  ['@', '$', '&', '.', ',', '=', '>', '<', '|', '!', '#', ';', '/', '*', '?', '"', '\'', Char.ofNat 96,
    '(', ')', '[', ']', '{', '}'].contains c

-- Identifiers hold anything but blanks and reserved characters, and start with neither a digit nor
-- a minus sign.
def anyIdent : IdentPolicy := fun c i =>
  !Text.isBlank c && !isReserved c && (0 < i || !(c.isDigit || c == '-'))

namespace Scan

inductive Trivia where
  | plain | line | block

def afterTrivia? : Trivia → List Char → Option (List Char)
  | .plain, [] => some []
  | .plain, '/' :: '/' :: cs => afterTrivia? .line cs
  | .plain, '/' :: '*' :: cs => afterTrivia? .block cs
  | .plain, c :: cs => if Text.isBlank c then afterTrivia? .plain cs else some (c :: cs)
  | .line, [] => some []
  | .line, c :: cs => if c = '\n' then afterTrivia? .plain cs else afterTrivia? .line cs
  | .block, [] => none
  | .block, '*' :: '/' :: cs => afterTrivia? .plain cs
  | .block, _ :: cs => afterTrivia? .block cs

def identifier (policy : IdentPolicy) (i : Nat) : List Char → List Char × List Char
  | [] => ([], [])
  | c :: cs =>
    if policy c i then
      let (name, rest) := identifier policy (i + 1) cs
      (c :: name, rest)
    else ([], c :: cs)

def unescape? : Char → Option Char
  | 'n' => some '\n'
  | 't' => some '\t'
  | 'r' => some '\r'
  | '0' => some '\x00'
  | '/' => some '/'
  | '\\' => some '\\'
  | '"' => some '"'
  | '\'' => some '\''
  | _ => none

def escapeValue? (a b c d : Char) : Option Char := do
  let a ← Text.hexValue? a
  let b ← Text.hexValue? b
  let c ← Text.hexValue? c
  let d ← Text.hexValue? d
  Text.scalar? (Text.digitsValue 16 [a, b, c, d])

def failedEscape : Nat → List Char → List Char
  | n + 1, c :: cs => if (Text.hexValue? c).isSome then failedEscape n cs else c :: cs
  | _, cs => cs

structure Literal where
  read : Except String (List Char)
  rest : List Char

def Literal.push (c : Char) (l : Literal) : Literal := ⟨l.read.map (c :: ·), l.rest⟩

def literal (quote : Char) : List Char → Literal
  | [] => ⟨.error "unterminated string literal", []⟩
  | '\\' :: [] => ⟨.error "unterminated string literal", []⟩
  | '\\' :: 'u' :: a :: b :: c :: d :: rest =>
    match escapeValue? a b c d with
    | some e => (literal quote rest).push e
    | none => ⟨.error "invalid unicode escape", failedEscape 3 (a :: b :: c :: d :: rest)⟩
  | '\\' :: 'u' :: rest => ⟨.error "invalid unicode escape", failedEscape 3 rest⟩
  | '\\' :: e :: rest =>
    match unescape? e with
    | some c => (literal quote rest).push c
    | none => ⟨.error ("invalid escape sequence \\" ++ e.toString), e :: rest⟩
  | c :: rest =>
    if c = quote then ⟨.ok [], rest⟩
    else if c = '\n' then ⟨.error "newline in string literal", c :: rest⟩
    else (literal quote rest).push c

def rawLiteral : List Char → Literal
  | [] => ⟨.error "unterminated raw string literal", []⟩
  | c :: rest => if c = Char.ofNat 96 then ⟨.ok [], rest⟩ else (rawLiteral rest).push c

def Literal.token (l : Literal) : Token × List Char :=
  match l.read with
  | .ok cs => (.string (String.ofList cs), l.rest)
  | .error reason => (.invalid reason, l.rest)

def startsWithDigit : List Char → Bool
  | c :: _ => c.isDigit
  | [] => false

def digits (cs : List Char) : List Char × List Char :=
  (cs.takeWhile Char.isDigit, cs.dropWhile Char.isDigit)

def fraction (cs : List Char) : List Char × List Char :=
  match cs with
  | '.' :: rest =>
    if startsWithDigit rest then ('.' :: (digits rest).1, (digits rest).2) else ([], cs)
  | _ => ([], cs)

def exponent (cs : List Char) : List Char × List Char :=
  match cs with
  | e :: s :: rest =>
    if e = 'e' ∨ e = 'E' then
      if s.isDigit then (e :: (digits (s :: rest)).1, (digits (s :: rest)).2)
      else if (s = '+' ∨ s = '-') ∧ startsWithDigit rest then
        (e :: s :: (digits rest).1, (digits rest).2)
      else ([], cs)
    else ([], cs)
  | _ => ([], cs)

def unsigned (cs : List Char) : List Char × List Char :=
  let whole := digits cs
  let places := fraction whole.2
  let power := exponent places.2
  (whole.1 ++ places.1 ++ power.1, power.2)

def number (policy : IdentPolicy) (cs : List Char) : Token × List Char :=
  let (text, rest) := match cs with
    | '-' :: rest => ('-' :: (unsigned rest).1, (unsigned rest).2)
    | cs => unsigned cs
  match rest with
  | c :: _ =>
    if policy c 1 ∧ c ≠ '-' then
      let glued := identifier policy 0 rest
      (.invalid (String.ofList (text ++ glued.1)), glued.2)
    else (.number (String.ofList text), rest)
  | [] => (.number (String.ofList text), [])

def token (policy : IdentPolicy) : List Char → Token × List Char
  | [] => (.endOfInput, [])
  | c :: rest =>
    if c = '"' ∨ c = '\'' then (literal c rest).token
    else if c = Char.ofNat 96 then (rawLiteral rest).token
    else if c.isDigit ∨ (c = '-' ∧ startsWithDigit rest) then number policy (c :: rest)
    else if policy c 0 then
      let (name, rest) := identifier policy 0 (c :: rest)
      (.ident (String.ofList name), rest)
    else (.rune c, rest)

end Scan

structure Cursor where
  rest : List Char
  position : Position

namespace Cursor

def ofText (s : String) : Cursor := ⟨s.toList, .start⟩

def moveTo (c : Cursor) (rest : List Char) : Cursor :=
  ⟨rest, c.position.after (c.rest.take (c.rest.length - rest.length))⟩

def next (policy : IdentPolicy) (c : Cursor) : PlacedToken × Cursor :=
  match Scan.afterTrivia? .plain c.rest with
  | none => (⟨.invalid "unterminated comment", (c.moveTo []).position⟩, c.moveTo [])
  | some rest =>
    let start := c.moveTo rest
    let (token, rest) := Scan.token policy rest
    (⟨token, start.position⟩, start.moveTo rest)

def tokensWithin (policy : IdentPolicy) : Nat → Cursor → List PlacedToken
  | 0, _ => []
  | n + 1, c =>
    let (t, c) := c.next policy
    if t.token = .endOfInput then [t] else t :: tokensWithin policy n c

end Cursor

def tokens (policy : IdentPolicy) (s : String) : List PlacedToken :=
  (Cursor.ofText s).tokensWithin policy (s.toList.length + 1)

end PathQuery
