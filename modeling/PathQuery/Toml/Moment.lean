import PathQuery.Text.Character

namespace PathQuery.Toml

structure Date where
  year : Nat
  month : Nat
  day : Nat
deriving DecidableEq, Repr

structure Time where
  hour : Nat
  minute : Nat
  second : Nat
  nanosecond : Nat
deriving DecidableEq, Repr

inductive Offset where
  | utc
  | minutes (behind : Bool) (count : Nat)
deriving DecidableEq, Repr

inductive Moment where
  | date (d : Date)
  | time (t : Time)
  | both (d : Date) (t : Time) (offset? : Option Offset)
deriving DecidableEq, Repr

def digits? (count : Nat) (cs : List Char) : Option (Nat × List Char) :=
  let ds := cs.take count
  if ds.length = count ∧ ds.all Char.isDigit then some (Text.decimalValue ds, cs.drop count) else none

def mark? (c : Char) : List Char → Option (List Char)
  | [] => none
  | d :: cs => if c = d then some cs else none

def isLeap (year : Nat) : Bool := year % 4 == 0 && (year % 100 != 0 || year % 400 == 0)

def daysIn (year month : Nat) : Nat :=
  match month with
  | 2 => if isLeap year then 29 else 28
  | 4 | 6 | 9 | 11 => 30
  | _ => 31

def Date.isValid (d : Date) : Bool :=
  1 ≤ d.month && d.month ≤ 12 && 1 ≤ d.day && d.day ≤ daysIn d.year d.month

def Time.isValid (t : Time) : Bool := t.hour ≤ 23 && t.minute ≤ 59 && t.second ≤ 60

def date? (cs : List Char) : Option (Date × List Char) := do
  let (year, cs) ← digits? 4 cs
  let cs ← mark? '-' cs
  let (month, cs) ← digits? 2 cs
  let cs ← mark? '-' cs
  let (day, cs) ← digits? 2 cs
  if (Date.mk year month day).isValid then some (⟨year, month, day⟩, cs) else none

def nanoseconds (ds : List Char) : Nat :=
  Text.decimalValue (ds.take 9 ++ List.replicate (9 - ds.length) '0')

def fraction (cs : List Char) : Nat × List Char :=
  match cs with
  | '.' :: rest =>
    match rest.takeWhile Char.isDigit with
    | [] => (0, cs)
    | ds => (nanoseconds ds, rest.dropWhile Char.isDigit)
  | _ => (0, cs)

def time? (cs : List Char) : Option (Time × List Char) := do
  let (hour, cs) ← digits? 2 cs
  let cs ← mark? ':' cs
  let (minute, cs) ← digits? 2 cs
  let cs ← mark? ':' cs
  let (second, cs) ← digits? 2 cs
  let (nanosecond, cs) := fraction cs
  if (Time.mk hour minute second nanosecond).isValid then
    some (⟨hour, minute, second, nanosecond⟩, cs)
  else none

def signedOffset? (behind : Bool) (cs : List Char) : Option (Offset × List Char) := do
  let (hours, cs) ← digits? 2 cs
  let cs ← mark? ':' cs
  let (minutes, cs) ← digits? 2 cs
  if hours ≤ 23 ∧ minutes ≤ 59 then some (.minutes behind (60 * hours + minutes), cs) else none

def offset? (cs : List Char) : Option (Offset × List Char) :=
  match cs with
  | 'Z' :: cs | 'z' :: cs => some (.utc, cs)
  | '+' :: cs => signedOffset? false cs
  | '-' :: cs => signedOffset? true cs
  | _ => none

def withTime (d : Date) (cs : List Char) : Moment × List Char :=
  match cs with
  | c :: rest =>
    if c = 'T' ∨ c = 't' ∨ c = ' ' then
      match time? rest with
      | some (t, rest) =>
        match offset? rest with
        | some (o, rest) => (.both d t (some o), rest)
        | none => (.both d t none, rest)
      | none => (.date d, cs)
    else (.date d, cs)
  | [] => (.date d, [])

def moment? (cs : List Char) : Option (Moment × List Char) :=
  match date? cs with
  | some (d, rest) => some (withTime d rest)
  | none => (time? cs).map fun (t, rest) => (.time t, rest)

def padded (count n : Nat) : String :=
  let ds := (Nat.repr n).toList
  String.ofList (List.replicate (count - ds.length) '0' ++ ds)

def Date.text (d : Date) : String :=
  padded 4 d.year ++ "-" ++ padded 2 d.month ++ "-" ++ padded 2 d.day

def fractionText (nanosecond : Nat) : String :=
  if nanosecond = 0 then ""
  else
    let ds := (padded 9 nanosecond).toList
    String.ofList ('.' :: (ds.reverse.dropWhile (· == '0')).reverse)

def Time.text (t : Time) : String :=
  padded 2 t.hour ++ ":" ++ padded 2 t.minute ++ ":" ++ padded 2 t.second ++
    fractionText t.nanosecond

def Offset.text : Offset → String
  | .utc => "Z"
  | .minutes behind count =>
    (if behind && count != 0 then "-" else "+") ++ padded 2 (count / 60) ++ ":" ++
      padded 2 (count % 60)

def Moment.text : Moment → String
  | .date d => d.text
  | .time t => t.text
  | .both d t offset? => d.text ++ "T" ++ t.text ++ (offset?.map Offset.text).getD ""

end PathQuery.Toml
