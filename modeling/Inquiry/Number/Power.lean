/-!
# Powers of two and ten

Words are bounded by powers of two, and the places of decimal numbers are powers of ten. Both are
natural numbers. Powers of ten are divided by, and they are positive.
-/

namespace Inquiry.Number

/-- The product of `n` twos. -/
def twoTo (n : Nat) : Nat := Nat.pow 2 n

/-- The product of `n` tens. -/
def tenTo (n : Nat) : Nat := Nat.pow 10 n

@[simp]
theorem twoTo_zero : twoTo 0 = 1 := rfl

@[simp]
theorem tenTo_zero : tenTo 0 = 1 := rfl

theorem tenTo_succ (n : Nat) : tenTo (n + 1) = tenTo n * 10 := rfl

theorem tenTo_add (m n : Nat) : tenTo (m + n) = tenTo m * tenTo n := Nat.pow_add 10 m n

theorem tenTo_pos (n : Nat) : 0 < tenTo n := Nat.pow_pos (by decide)

end Inquiry.Number
