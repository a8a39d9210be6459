/-!
# Gelf.Number.Power

Powers of two and of ten, the units of floats and of decimals, and the numbers of a machine word.
-/

namespace Gelf.Number

abbrev twoTo (n : Nat) : Nat := Nat.pow 2 n

abbrev tenTo (n : Nat) : Nat := Nat.pow 10 n

def fitsWord (n : Int) : Bool := -(twoTo 63 : Int) ≤ n && n < twoTo 63

theorem twoTo_add (m n : Nat) : twoTo (m + n) = twoTo m * twoTo n := Nat.pow_add 2 m n

theorem twoTo_pos (n : Nat) : 0 < twoTo n := Nat.pow_pos (by decide)

end Gelf.Number
