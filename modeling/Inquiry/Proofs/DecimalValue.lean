import Inquiry.Number.Decimal.Basic
import Mathlib.Algebra.Field.Rat
import Mathlib.Tactic.NormNum

/-!
# The numbers that decimals denote

A decimal is a coefficient with places, and many of them denote one number. What is
said of numbers is said of `Decimal.toRat`. It is a whole number if the coefficient is a
multiple of the power of ten that the places stand for, however many places there are
(`toInt?_eq_some_iff`).
-/

namespace Inquiry.Decimal

open Number (tenTo tenTo_pos)

/-- The number that the decimal denotes. -/
def toRat (d : Decimal) : ℚ := (d.signed : ℚ) / (tenTo d.scale : ℚ)

theorem tenTo_ne_zero (scale : Nat) : (tenTo scale : ℚ) ≠ 0 :=
  Nat.cast_ne_zero.mpr (Nat.ne_of_gt (tenTo_pos scale))

theorem toRat_eq_intCast_iff (d : Decimal) (n : Int) :
    d.toRat = n ↔ d.signed = n * tenTo d.scale := by
  rw [toRat, div_eq_iff (tenTo_ne_zero d.scale)]
  exact_mod_cast Iff.rfl

theorem natAbs_signed (d : Decimal) : d.signed.natAbs = d.coefficient := by
  rw [signed]
  split <;> omega

/-- A decimal denotes a whole number exactly if it is taken for that number. -/
theorem toInt?_eq_some_iff (d : Decimal) (n : Int) : d.toInt? = some n ↔ d.toRat = n := by
  rw [toRat_eq_intCast_iff, toInt?]
  split
  · next hmod =>
      obtain ⟨q, hq⟩ := Nat.dvd_of_mod_eq_zero hmod
      have hpos : (tenTo d.scale : Int) ≠ 0 := by
        have := tenTo_pos d.scale
        omega
      have hsigned : d.signed = (if d.negative then -(q : Int) else q) * tenTo d.scale := by
        rw [signed, hq, Int.natCast_mul, Int.mul_comm]
        split
        · rw [Int.neg_mul]
        · rfl
      rw [hq, Nat.mul_div_cancel_left q (tenTo_pos d.scale), Option.some_inj, hsigned]
      exact (Int.mul_eq_mul_right_iff hpos).symm
  · next hmod =>
      refine ⟨nofun, fun h => absurd ?_ hmod⟩
      rw [← natAbs_signed, h, Int.natAbs_mul, Int.natAbs_natCast, Nat.mul_mod_left]

/-- A 64-bit integer keeps its value. -/
theorem toRat_ofInt64 (n : Int64) : (ofInt64 n).toRat = n.toInt := by
  rw [toRat_eq_intCast_iff, ofInt64, signed, Number.tenTo_zero]
  simp only [decide_eq_true_eq]
  split <;> omega

end Inquiry.Decimal
