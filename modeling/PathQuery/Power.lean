namespace PathQuery

def tens (n : Nat) : Nat := Nat.pow 10 n

def twos (n : Nat) : Nat := Nat.pow 2 n

theorem tens_succ (n : Nat) : tens (n + 1) = tens n * 10 := rfl

theorem twos_succ (n : Nat) : twos (n + 1) = twos n * 2 := rfl

theorem tens_pos (n : Nat) : 0 < tens n := Nat.pow_pos (by decide)

end PathQuery
