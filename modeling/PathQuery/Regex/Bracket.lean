import PathQuery.Regex.Basic

namespace PathQuery.Regex

structure Flags where
  ignoreCase : Bool := false
  multiLine : Bool := false
  dotAll : Bool := false
  swapGreed : Bool := false
  unicode : Bool := true
  crlf : Bool := false
  verbose : Bool := false

def Flags.caseless (f : Flags) (set : CharSet) : CharSet :=
  if !f.ignoreCase then set
  else if f.unicode then set.caseless
  else set.asciiCaseless

def Flags.word (f : Flags) : CharSet := if f.unicode then .word else .asciiWord

-- A complement without Unicode would hold parts of characters, so there is none.
def Flags.complement? (f : Flags) (set : CharSet) : Option CharSet :=
  if f.unicode then some set.complement else none

def skipComment (cs : List Char) : List Char := cs.dropWhile (· != '\n')

def skipVerbose : Nat → List Char → List Char
  | 0, cs => cs
  | fuel + 1, cs =>
    match cs with
    | '#' :: rest => skipVerbose fuel (skipComment rest)
    | c :: rest => if Text.isBlank c then skipVerbose fuel rest else cs
    | [] => []

def Flags.skip (f : Flags) (cs : List Char) : List Char :=
  if f.verbose then skipVerbose cs.length cs else cs

inductive Escape where
  | char (c : Char)
  | set (s : CharSet)
  | look (l : Look)

def isMeta (c : Char) : Bool :=
  ['\\', '.', '+', '*', '?', '(', ')', '|', '[', ']', '{', '}', '^', '$', '#', '&', '-', '~'].contains c

def isEscapable (c : Char) : Bool :=
  isMeta c || (c.toNat < 128 && !c.isAlphanum && c != '<' && c != '>')

def hexEscape? (f : Flags) (n : Nat) (cs : List Char) : Option (Char × List Char) :=
  let value? := fun (digits : List Char) => do
    let values ← digits.mapM Text.hexValue?
    Text.scalar? (Text.digitsValue 16 values)
  match f.skip cs with
  | '{' :: rest =>
    let inner := (rest.takeWhile (· != '}')).filter fun c => !(f.verbose && Text.isBlank c)
    match rest.dropWhile (· != '}') with
    | '}' :: rest =>
      if inner.isEmpty || 8 < (inner.dropWhile (· == '0')).length then none
      else (value? inner).map (·, rest)
    | _ => none
  | cs =>
    if cs.length < n then none else (value? (cs.take n)).map (·, cs.drop n)

def classKey (name : List Char) : String :=
  let plain := (name.filter fun c => c != ' ' && c != '_' && c != '-').map Char.toLower
  String.ofList plain

def withoutIs (key : String) : String :=
  match key.toList with
  | 'i' :: 's' :: c :: rest => String.ofList (c :: rest)
  | _ => key

def generalCategory? (key : String) : Option CharSet :=
  match key with
  | "any" => some fun _ => true
  | "ascii" => some fun c => c.toNat < 128
  | "assigned" =>
    let sets := Unicode.categories.map fun c => CharSet.ofRanges c.2.2
    some fun c => sets.any fun s => s c
  | key =>
    match Unicode.categoryGroups.find? fun g => g.1 == key || g.2.1 == key with
    | some g =>
      let sets := (g.2.2.filterMap Unicode.category?).map CharSet.ofRanges
      some fun c => sets.any fun s => s c
    | none => (Unicode.category? key).map CharSet.ofRanges

def unicodeClass? (key : String) : Option CharSet :=
  let look := fun (key : String) =>
    if key == "whitespace" || key == "space" then some CharSet.space
    else if key == "alpha" then (Unicode.property? "alphabetic").map CharSet.ofRanges
    else if key == "lower" then (Unicode.property? "lowercase").map CharSet.ofRanges
    else if key == "upper" then (Unicode.property? "uppercase").map CharSet.ofRanges
    else
      (((Unicode.property? key).map CharSet.ofRanges).or (generalCategory? key)).or
        ((Unicode.script? key).map CharSet.ofRanges)
  (look key).or (look (withoutIs key))

def valuedClass? (kind value : String) : Option CharSet :=
  if kind == "sc" || kind == "script" || kind == "scx" || kind == "scriptextensions" then
    (Unicode.script? value).map CharSet.ofRanges
  else if kind == "gc" || kind == "generalcategory" then generalCategory? value
  else none

def splitValue (name : List Char) : Option (List Char × Bool × List Char) :=
  let key := name.takeWhile fun c => c != '=' && c != ':' && c != '!'
  match name.dropWhile fun c => c != '=' && c != ':' && c != '!' with
  | '!' :: '=' :: value => some (key, true, value)
  | '=' :: value | ':' :: value => some (key, false, value)
  | _ => none

def property? (f : Flags) (negated : Bool) (cs : List Char) : Option (CharSet × List Char) := do
  let (name, rest) ← match f.skip cs with
    | '{' :: rest =>
      match rest.dropWhile (· != '}') with
      | '}' :: after => some (rest.takeWhile (· != '}'), after)
      | _ => none
    | c :: rest => some ([c], rest)
    | [] => none
  if !f.unicode then none
  let (flip, set) ← match splitValue name with
    | some (kind, unequal, value) =>
      (valuedClass? (classKey kind) (classKey value)).map fun s => (unequal, s)
    | none => (unicodeClass? (classKey name)).map fun s => (false, s)
  let set := f.caseless set
  return (if negated != flip then set.complement else set, rest)

def perlClass? (f : Flags) (c : Char) : Option CharSet :=
  match c with
  | 'd' => some (if f.unicode then .digit else Char.isDigit)
  | 's' => some (if f.unicode then .space else .asciiSpace)
  | 'w' => some f.word
  | 'D' => f.complement? .digit
  | 'S' => f.complement? .space
  | 'W' => f.complement? .word
  | _ => none

def wordEdge? (word : CharSet) (name : String) : Option Look :=
  match name with
  | "start" => some (.wordStart word)
  | "end" => some (.wordEnd word)
  | "start-half" => some (.wordStartHalf word)
  | "end-half" => some (.wordEndHalf word)
  | _ => none

def boundary? (f : Flags) (cs : List Char) : Option (Look × List Char) :=
  match cs with
  | '{' :: rest =>
    let isEdge := fun (c : Char) => c.isAlpha || c == '-'
    let inner := f.skip rest
    match inner with
    | c :: _ =>
      if !isEdge c then some (.boundary f.word, cs)
      else
        match f.skip (inner.dropWhile isEdge) with
        | '}' :: after =>
          (wordEdge? f.word (String.ofList (inner.takeWhile isEdge))).map (·, after)
        | _ => none
    | [] => none
  | _ => some (.boundary f.word, cs)

def escape? (f : Flags) (cs : List Char) : Option (Escape × List Char) :=
  match cs with
  | [] => none
  | 'x' :: rest => (hexEscape? f 2 rest).map fun (c, rest) => (.char c, rest)
  | 'u' :: rest => (hexEscape? f 4 rest).map fun (c, rest) => (.char c, rest)
  | 'U' :: rest => (hexEscape? f 8 rest).map fun (c, rest) => (.char c, rest)
  | 'p' :: rest => (property? f false rest).map fun (s, rest) => (.set s, rest)
  | 'P' :: rest => (property? f true rest).map fun (s, rest) => (.set s, rest)
  | 'b' :: rest => (boundary? f rest).map fun (l, rest) => (.look l, rest)
  | 'B' :: rest => some (.look (.noBoundary f.word), rest)
  | 'A' :: rest => some (.look .textStart, rest)
  | 'z' :: rest => some (.look .textEnd, rest)
  | '<' :: rest => some (.look (.wordStart f.word), rest)
  | '>' :: rest => some (.look (.wordEnd f.word), rest)
  | 'a' :: rest => some (.char '\x07', rest)
  | 'f' :: rest => some (.char '\x0c', rest)
  | 'n' :: rest => some (.char '\n', rest)
  | 'r' :: rest => some (.char '\r', rest)
  | 't' :: rest => some (.char '\t', rest)
  | 'v' :: rest => some (.char '\x0b', rest)
  | c :: rest =>
    if ['d', 's', 'w', 'D', 'S', 'W'].contains c then
      (perlClass? f c).map fun s => (.set s, rest)
    else if isEscapable c then some (.char c, rest)
    else none

inductive SetOperation where
  | intersection | difference | symmetricDifference

def SetOperation.apply : SetOperation → CharSet → CharSet → CharSet
  | .intersection => .intersection
  | .difference => .difference
  | .symmetricDifference => .symmetricDifference

structure OpenClass where
  left : Option (SetOperation × CharSet)
  union : CharSet

namespace OpenClass

def start : OpenClass := ⟨none, .empty⟩

def add (o : OpenClass) (set : CharSet) : OpenClass := { o with union := o.union.union set }

def value (f : Flags) (o : OpenClass) : CharSet :=
  match o.left with
  | none => o.union
  | some (op, left) => op.apply (f.caseless left) (f.caseless o.union)

def operate (f : Flags) (op : SetOperation) (o : OpenClass) : OpenClass :=
  ⟨some (op, o.value f), .empty⟩

end OpenClass

def asciiClass? (cs : List Char) : Option (CharSet × List Char) :=
  match cs with
  | ':' :: rest =>
    let (negated, rest) := match rest with
      | '^' :: rest => (true, rest)
      | rest => (false, rest)
    match rest.dropWhile (· != ':') with
    | ':' :: ']' :: after =>
      (CharSet.ascii? (String.ofList (rest.takeWhile (· != ':')))).map fun s =>
        (if negated then s.complement else s, after)
    | _ => none
  | _ => none

def classItem? (f : Flags) (cs : List Char) : Option (Escape × List Char) :=
  match cs with
  | '\\' :: rest =>
    match rest with
    | ' ' :: after => if f.verbose then some (.char ' ', after) else escape? f rest
    | _ => escape? f rest
  | c :: rest => some (.char c, rest)
  | [] => none

def classRange? (f : Flags) (cs : List Char) : Option (CharSet × List Char) := do
  let (item, rest) ← classItem? f cs
  let single : Option (CharSet × List Char) := match item with
    | .char c => some (CharSet.range c c, rest)
    | .set s => some (s, rest)
    | .look _ => none
  match f.skip rest with
  | '-' :: after =>
    match f.skip after with
    | ']' :: _ | '-' :: _ => single
    | [] => none
    | after =>
      let (other, rest) ← classItem? f after
      match item, other with
      | .char first, .char last =>
        if first ≤ last then some (CharSet.range first last, rest) else none
      | _, _ => none
  | [] => none
  | _ => single

def leadingMinus (f : Flags) : Nat → OpenClass → List Char → OpenClass × List Char
  | 0, o, cs => (o, cs)
  | fuel + 1, o, cs =>
    match cs with
    | '-' :: rest => leadingMinus f fuel (o.add (CharSet.range '-' '-')) (f.skip rest)
    | cs => (o, cs)

mutual

def bracket? (f : Flags) : Nat → List Char → Option (CharSet × List Char)
  | 0, _ => none
  | fuel + 1, cs =>
    let (negated, cs) := match f.skip cs with
      | '^' :: rest => (true, f.skip rest)
      | cs => (false, cs)
    let (o, rest) := leadingMinus f cs.length .start cs
    let (o, rest) := match cs, rest with
      | '-' :: _, _ => (o, rest)
      | _, ']' :: rest => (o.add (CharSet.range ']' ']'), rest)
      | _, rest => (o, rest)
    match bracketItems? f fuel o rest with
    | none => none
    | some (set, rest) =>
      let set := f.caseless set
      if negated then (f.complement? set).map (·, rest) else some (set, rest)

def bracketItems? (f : Flags) : Nat → OpenClass → List Char → Option (CharSet × List Char)
  | 0, _, _ => none
  | fuel + 1, o, cs =>
    match f.skip cs with
    | [] => none
    | ']' :: rest => some (o.value f, rest)
    | '[' :: rest =>
      match asciiClass? rest with
      | some (set, rest) => bracketItems? f fuel (o.add set) rest
      | none =>
        match bracket? f fuel rest with
        | some (set, rest) => bracketItems? f fuel (o.add set) rest
        | none => none
    | '&' :: '&' :: rest => bracketItems? f fuel (o.operate f .intersection) rest
    | '-' :: '-' :: rest => bracketItems? f fuel (o.operate f .difference) rest
    | '~' :: '~' :: rest => bracketItems? f fuel (o.operate f .symmetricDifference) rest
    | cs =>
      match classRange? f cs with
      | some (set, rest) => bracketItems? f fuel (o.add set) rest
      | none => none

end

end PathQuery.Regex
