import PathQuery.Regex.Program

namespace PathQuery.Regex

abbrev Slots := Array (Option Nat)

structure Place where
  index : Nat
  before : Option Char
  after : Option Char

structure Ways where
  visited : Array Bool
  waiting : List (Nat × Slots)

def follow (p : Program) (place : Place) : Nat → Nat → Slots → Ways → Ways
  | 0, _, _, ways => ways
  | fuel + 1, at_, slots, ways =>
    if ways.visited.getD at_ true then ways
    else
      let ways := { ways with visited := ways.visited.setIfInBounds at_ true }
      match p.code[at_]? with
      | some (.fork a b) => follow p place fuel b slots (follow p place fuel a slots ways)
      | some (.look l next) =>
        if l.holds place.before place.after then follow p place fuel next slots ways else ways
      | some (.save slot next) =>
        follow p place fuel next (slots.setIfInBounds slot (some place.index)) ways
      | some _ => { ways with waiting := (at_, slots) :: ways.waiting }
      | none => ways

def Ways.none (p : Program) : Ways := ⟨Array.replicate p.code.size false, []⟩

def Ways.start (p : Program) (place : Place) (ways : Ways) : Ways :=
  follow p place (p.code.size + 1) p.entry (Array.replicate p.slots Option.none) ways

-- Takes a character on every way in turn. A way that is done ends all ways after it.
def advance (p : Program) (c : Option Char) (place : Place) :
    List (Nat × Slots) → Ways → Ways × Option Slots
  | [], ways => (ways, Option.none)
  | (at_, slots) :: rest, ways =>
    match p.code[at_]? with
    | some .done => (ways, some slots)
    | some (.char set next) =>
      if c.any set then advance p c place rest (follow p place (p.code.size + 1) next slots ways)
      else advance p c place rest ways
    | _ => advance p c place rest ways

def search (p : Program) (place : Place) (ways : Ways) (best : Option Slots) :
    List Char → Option Slots
  | [] =>
    let ways := if best.isNone then ways.start p place else ways
    ((advance p Option.none place ways.waiting.reverse (.none p)).2).or best
  | c :: cs =>
    let ways := if best.isNone then ways.start p place else ways
    if ways.waiting.isEmpty && best.isSome then best
    else
      let next : Place := ⟨place.index + 1, some c, cs.head?⟩
      let (ways, found) := advance p (some c) next ways.waiting.reverse (.none p)
      search p next ways (found.or best) cs

def find? (p : Program) (index : Nat) (before : Option Char) (cs : List Char) : Option Slots :=
  search p ⟨index, before, cs.head?⟩ (.none p) Option.none cs

def Slots.span? (s : Slots) (group : Nat) : Option (Nat × Nat) :=
  match s.getD (2 * group) Option.none, s.getD (2 * group + 1) Option.none with
  | some first, some last => some (first, last)
  | _, _ => Option.none

end PathQuery.Regex
