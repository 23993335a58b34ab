import PathQuery.Regex.Pattern

namespace PathQuery.Regex

inductive Instruction where
  | char (set : CharSet) (next : Nat)
  | look (l : Look) (next : Nat)
  | save (slot next : Nat)
  | fork (preferred other : Nat)
  | done
deriving Inhabited

abbrev Code := Array Instruction

structure Block where
  code : Code
  entry : Nat

def Block.push (b : Block) (i : Instruction) : Block := ⟨b.code.push i, b.code.size⟩

def forkTo (greedy : Bool) (body next : Nat) : Instruction :=
  if greedy then .fork body next else .fork next body

def times (emit : Block → Block) : Nat → Block → Block
  | 0, b => b
  | n + 1, b => times emit n (emit b)

def loopOnce (emit : Block → Block) (greedy : Bool) (b : Block) : Block × Nat :=
  let fork := b.code.size
  let body := emit ⟨b.code.push .done, fork⟩
  (⟨body.code.setIfInBounds fork (forkTo greedy body.entry b.entry), body.entry⟩, fork)

def optional (emit : Block → Block) (greedy : Bool) (next : Nat) : Nat → Block → Block
  | 0, b => b
  | n + 1, b =>
    let body := emit b
    optional emit greedy next n (body.push (forkTo greedy body.entry next))

def emit : Expr → Block → Block
  | .empty, b => b
  | .one set, b => b.push (.char set b.entry)
  | .look l, b => b.push (.look l b.entry)
  | .capture i e, b =>
    let body := emit e (b.push (.save (2 * i + 1) b.entry))
    body.push (.save (2 * i) body.entry)
  | .seq a c, b => emit a (emit c b)
  | .alt a c, b =>
    let second := emit c b
    let first := emit a ⟨second.code, b.entry⟩
    first.push (.fork first.entry second.entry)
  | .repeated least most greedy e, b =>
    match most with
    | some most =>
      times (emit e) least (optional (emit e) greedy b.entry (most - least) b)
    | none =>
      let (body, fork) := loopOnce (emit e) greedy b
      if 0 < least then times (emit e) (least - 1) body
      else if e.consumes then ⟨body.code, fork⟩
      else body.push (forkTo greedy body.entry b.entry)

def size : Expr → Nat
  | .empty => 0
  | .one _ | .look _ => 1
  | .capture _ e => size e + 2
  | .seq a b => size a + size b
  | .alt a b => size a + size b + 1
  | .repeated least most _ e =>
    match most with
    | some most => size e * least + (size e + 1) * (most - least)
    | none => size e * Nat.max least 1 + 2

def sizeLimit : Nat := 300000

structure Program where
  code : Code
  entry : Nat
  slots : Nat
  names : List (String × Nat)

def Program.ofPattern? (p : Pattern) : Option Program :=
  let e := Expr.capture 0 p.expr
  if sizeLimit < size e then none
  else
    let b := emit e ⟨#[.done], 0⟩
    some ⟨b.code, b.entry, 2 * (p.captures + 1), p.names⟩

end PathQuery.Regex
