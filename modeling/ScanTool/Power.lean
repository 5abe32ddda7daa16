/-!
# Powers of two and of ten

Words, doubles and decimal grids are measured in powers of two and of ten. They are those of `Nat`,
under names that mean the same wherever more than one power of numbers is in scope.
-/

namespace ScanTool

/-- The power `2 ^ n`: the number of values of a word of `n` bits. -/
def twoTo (n : Nat) : Nat := Nat.pow 2 n

/-- The power `10 ^ n`: the number of values of `n` decimal digits. -/
def tenTo (n : Nat) : Nat := Nat.pow 10 n

theorem twoTo_pos (n : Nat) : 0 < twoTo n := Nat.two_pow_pos n

end ScanTool
