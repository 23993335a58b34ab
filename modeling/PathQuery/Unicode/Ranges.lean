import PathQuery.Text.Character

namespace PathQuery.Unicode

structure RangesSoFar where
  ranges : Array (Nat × Nat)
  first? : Option Nat
  number? : Option Nat

def RangesSoFar.close (r : RangesSoFar) : RangesSoFar :=
  match r.number? with
  | some n => ⟨r.ranges.push (r.first?.getD n, n), none, none⟩
  | none => r

def RangesSoFar.push (r : RangesSoFar) (c : Char) : RangesSoFar :=
  match Text.hexValue? c with
  | some d => { r with number? := some (r.number?.getD 0 * 16 + d) }
  | none => if c = '-' then { r with first? := r.number?, number? := none } else r.close

def ranges (text : String) : Array (Nat × Nat) :=
  (text.toList.foldl RangesSoFar.push ⟨#[], none, none⟩).close.ranges

def covers (ranges : Array (Nat × Nat)) (c : Char) : Bool :=
  ranges.any fun r => r.1 ≤ c.toNat && c.toNat ≤ r.2

end PathQuery.Unicode
