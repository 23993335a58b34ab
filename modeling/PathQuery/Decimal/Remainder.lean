import PathQuery.Power

namespace PathQuery.Decimal

def words : Nat → Nat → List Nat
  | 0, _ => []
  | count + 1, n => n % twos 32 :: words count (n / twos 32)

def stepRemainder (d r w : Nat) : Nat :=
  let n := r * twos 32 + w
  if n / twos 96 = d / twos 64 then n % twos 96 % d else n % d

def wordRemainder (d : Nat) : List Nat → Nat
  | [] => 0
  | w :: ws => stepRemainder d (wordRemainder d ws) w

-- The remainder of a number below `2 ^ 192` by one below `2 ^ 96`. For the division by words both
-- are first multiplied by the power of two that sets the divisor's top bit.
def remainder (n d : Nat) : Nat :=
  if d < twos 64 then n % d
  else
    let factor := twos (95 - d.log2)
    wordRemainder (d * factor) (words 7 (n * factor)) / factor

end PathQuery.Decimal
