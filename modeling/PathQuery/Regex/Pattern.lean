import PathQuery.Regex.Bracket
import PathQuery.Power

namespace PathQuery.Regex

inductive Item where
  | expr (e : Expr)
  | flags

def Item.toExpr : Item → Expr
  | .expr e => e
  | .flags => .empty

structure Level where
  capture : Option Nat
  outerFlags : Flags
  branches : List Expr
  items : List Item

def Level.branch (l : Level) : Expr := .sequence (l.items.reverse.map Item.toExpr)

def Level.toExpr (l : Level) : Expr :=
  let e := Expr.choice (l.branch :: l.branches).reverse
  match l.capture with
  | some i => .capture i e
  | none => e

def Level.push (l : Level) (i : Item) : Level := { l with items := i :: l.items }

structure Reading where
  rest : List Char
  flags : Flags
  level : Level
  around : List Level
  captures : Nat
  names : List (String × Nat)

namespace Reading

def start (pattern : List Char) : Reading :=
  ⟨pattern, {}, ⟨none, {}, [], []⟩, [], 0, []⟩

def push (r : Reading) (e : Expr) (rest : List Char) : Reading :=
  { r with level := r.level.push (.expr e), rest }

def openGroup (r : Reading) (capture : Option Nat) (flags : Flags) (rest : List Char) : Reading :=
  { r with rest, flags, level := ⟨capture, r.flags, [], []⟩, around := r.level :: r.around }

def closeGroup? (r : Reading) (rest : List Char) : Option Reading :=
  match r.around with
  | [] => none
  | outer :: around =>
    some { r with
      rest, around
      flags := r.level.outerFlags
      level := outer.push (.expr r.level.toExpr) }

def nextBranch (r : Reading) (rest : List Char) : Reading :=
  { r with rest, level := { r.level with branches := r.level.branch :: r.level.branches, items := [] } }

def repeatLast? (r : Reading) (least : Nat) (most : Option Nat) (rest : List Char) :
    Option Reading :=
  let (greedy, rest) := match rest with
    | '?' :: rest => (false, rest)
    | rest => (true, rest)
  match r.level.items with
  | .expr e :: items =>
    some { r with
      rest
      level := { r.level with
        items := .expr (.repeated least most (greedy != r.flags.swapGreed) e) :: items } }
  | _ => none

def number? (f : Flags) (cs : List Char) : Option (Nat × List Char) :=
  let cs := cs.dropWhile Text.isBlank
  let digits := cs.takeWhile Char.isDigit
  let rest := (cs.dropWhile Char.isDigit).dropWhile Text.isBlank
  if digits.isEmpty || twos 32 ≤ Text.decimalValue digits then none
  else some (Text.decimalValue digits, f.skip rest)

def counted? (r : Reading) (cs : List Char) : Option Reading := do
  let (least, rest) ← number? r.flags (r.flags.skip cs)
  match rest with
  | '}' :: rest => r.repeatLast? least (some least) (r.flags.skip rest)
  | ',' :: rest =>
    match r.flags.skip rest with
    | '}' :: rest => r.repeatLast? least none (r.flags.skip rest)
    | rest =>
      let (most, rest) ← number? r.flags rest
      match rest with
      | '}' :: rest =>
        if least ≤ most then r.repeatLast? least (some most) (r.flags.skip rest) else none
      | _ => none
  | _ => none

def setFlag? (f : Flags) (c : Char) (value : Bool) : Option Flags :=
  match c with
  | 'i' => some { f with ignoreCase := value }
  | 'm' => some { f with multiLine := value }
  | 's' => some { f with dotAll := value }
  | 'U' => some { f with swapGreed := value }
  | 'u' => some { f with unicode := value }
  | 'R' => some { f with crlf := value }
  | 'x' => some { f with verbose := value }
  | _ => none

def flags? (f : Flags) (value : Bool) (seen : List Char) : List Char → Option (Flags × List Char)
  | [] => none
  | ':' :: rest => if seen.head? = some '-' then none else some (f, ':' :: rest)
  | ')' :: rest => if seen.head? = some '-' then none else some (f, ')' :: rest)
  | '-' :: rest => if value then flags? f false ('-' :: seen) rest else none
  | c :: rest =>
    if seen.contains c then none
    else
      match setFlag? f c value with
      | some f => flags? f value (c :: seen) rest
      | none => none

def isNameStart (c : Char) : Bool := c == '_' || (CharSet.word c && !CharSet.digit c)

def isNamePart (c : Char) : Bool :=
  CharSet.word c || c == '.' || c == '[' || c == ']'

def named? (r : Reading) (cs : List Char) : Option Reading :=
  let name := cs.takeWhile (· != '>')
  match name, cs.dropWhile (· != '>') with
  | c :: more, '>' :: rest =>
    let name := String.ofList (c :: more)
    if isNameStart c && more.all isNamePart && !(r.names.any fun n => n.1 == name) then
      let r := { r with captures := r.captures + 1, names := (name, r.captures + 1) :: r.names }
      some (r.openGroup (some r.captures) r.flags rest)
    else none
  | _, _ => none

def group? (r : Reading) (cs : List Char) : Option Reading :=
  match r.flags.skip cs with
  | '?' :: '=' :: _ | '?' :: '!' :: _ | '?' :: '<' :: '=' :: _ | '?' :: '<' :: '!' :: _ => none
  | '?' :: 'P' :: '<' :: rest => r.named? rest
  | '?' :: '<' :: rest => r.named? rest
  | '?' :: rest =>
    match rest with
    | ')' :: _ => none
    | rest =>
      match flags? r.flags true [] rest with
      | some (f, ':' :: rest) => some (r.openGroup none f rest)
      | some (f, ')' :: rest) => some { r with flags := f, rest, level := r.level.push .flags }
      | _ => none
  | cs =>
    let r := { r with captures := r.captures + 1 }
    some (r.openGroup (some r.captures) r.flags cs)

def dot? (f : Flags) : Option CharSet :=
  if !f.unicode then none
  else if f.dotAll then some fun _ => true
  else if f.crlf then some fun c => c != '\n' && c != '\r'
  else some fun c => c != '\n'

def literal (f : Flags) (c : Char) : Expr := .one (f.caseless (CharSet.range c c))

def lineStart (f : Flags) : Look :=
  if !f.multiLine then .textStart else if f.crlf then .crlfLineStart else .lineStart

def lineEnd (f : Flags) : Look :=
  if !f.multiLine then .textEnd else if f.crlf then .crlfLineEnd else .lineEnd

def step? (r : Reading) : Option Reading :=
  match r.flags.skip r.rest with
  | [] => some { r with rest := [] }
  | '(' :: rest => r.group? rest
  | ')' :: rest => r.closeGroup? rest
  | '|' :: rest => some (r.nextBranch rest)
  | '[' :: rest =>
    (bracket? r.flags (rest.length + 1) rest).map fun (set, rest) => r.push (.one set) rest
  | '?' :: rest => r.repeatLast? 0 (some 1) rest
  | '*' :: rest => r.repeatLast? 0 none rest
  | '+' :: rest => r.repeatLast? 1 none rest
  | '{' :: rest => r.counted? rest
  | '.' :: rest => (dot? r.flags).map fun set => r.push (.one set) rest
  | '^' :: rest => some (r.push (.look (lineStart r.flags)) rest)
  | '$' :: rest => some (r.push (.look (lineEnd r.flags)) rest)
  | '\\' :: ' ' :: rest => some (r.push (literal r.flags ' ') rest)
  | '\\' :: rest =>
    match escape? r.flags rest with
    | some (.char c, rest) => some (r.push (literal r.flags c) rest)
    | some (.set s, rest) => some (r.push (.one s) rest)
    | some (.look l, rest) => some (r.push (.look l) rest)
    | none => none
  | c :: rest => some (r.push (literal r.flags c) rest)

def run? : Nat → Reading → Option Reading
  | 0, r => some r
  | n + 1, r => if r.rest.isEmpty then some r else r.step?.bind (run? n)

end Reading

structure Pattern where
  expr : Expr
  captures : Nat
  names : List (String × Nat)

def Pattern.read? (text : String) : Option Pattern := do
  let cs := text.toList
  let r ← Reading.run? (cs.length + 1) (.start cs)
  if !r.around.isEmpty then none
  return ⟨r.level.toExpr, r.captures, r.names⟩

end PathQuery.Regex
