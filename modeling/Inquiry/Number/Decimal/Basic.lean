import Inquiry.Number.Power
import Inquiry.Number.Rounding

/-!
# Decimals

A decimal is a signed whole coefficient of at most 96 bits divided by a power of ten of at most 28
places. The number of places is part of the value and is kept by its text, so `1.5` and `1.50` are
two decimals that denote one number; zero has a sign.
-/

namespace Inquiry

open Number (tenTo twoTo)

/-- The bound of the coefficients. -/
def Decimal.limit : Nat := twoTo 96

/-- The greatest number of places. -/
def Decimal.maxScale : Nat := 28

/-- The number `coefficient / 10 ^ scale`, or its negative. -/
structure Decimal where
  negative : Bool
  coefficient : Nat
  scale : Nat
  coefficient_lt : coefficient < Decimal.limit
  scale_le : scale ≤ Decimal.maxScale
  deriving DecidableEq

namespace Decimal

/-- The decimal with the given parts, if they are within bounds. -/
def ofParts? (negative : Bool) (coefficient scale : Nat) : Option Decimal :=
  if h : coefficient < limit ∧ scale ≤ maxScale then some ⟨negative, coefficient, scale, h.1, h.2⟩
  else none

/-- Zero without places. -/
def zero : Decimal := ⟨false, 0, 0, by decide, by decide⟩

/-- The same decimal, except that zero has no sign. -/
def unsignedZero (d : Decimal) : Decimal :=
  { d with negative := d.negative && d.coefficient != 0 }

/-- The decimal with the given parts, if they are within bounds; zero has no sign. -/
def ofResult? (negative : Bool) (coefficient scale : Nat) : Option Decimal :=
  (ofParts? negative coefficient scale).map unsignedZero

/-- The magnitude of a 64-bit integer fits a coefficient. -/
theorem natAbs_lt_limit (n : Int64) : n.toInt.natAbs < limit := by
  have bound : limit = 79228162514264337593543950336 := by decide
  have := n.le_toInt
  have := n.toInt_lt
  omega

/-- A 64-bit integer as a decimal. -/
def ofInt64 (n : Int64) : Decimal :=
  ⟨decide (n.toInt < 0), n.toInt.natAbs, 0, natAbs_lt_limit n, by decide⟩

/-- Whether the decimal denotes zero. -/
def isZero (d : Decimal) : Bool := d.coefficient == 0

/-- The coefficient with its sign. -/
def signed (d : Decimal) : Int := if d.negative then -d.coefficient else d.coefficient

/-- The decimal with the other sign. -/
def neg (d : Decimal) : Decimal := { d with negative := !d.negative }

/-- The order of the numbers that two decimals denote. -/
def order (a b : Decimal) : Ordering :=
  compare (a.signed * tenTo b.scale) (b.signed * tenTo a.scale)

/-- Whether two decimals denote the same number. -/
def same (a b : Decimal) : Bool := a.order b == .eq

/-- The whole number that the decimal denotes, if it denotes one. -/
def toInt? (d : Decimal) : Option Int :=
  if d.coefficient % tenTo d.scale = 0 then
    let n := d.coefficient / tenTo d.scale
    some (if d.negative then -(n : Int) else n)
  else none

/-- Removes zeros at the end of a coefficient with `scale` places, down to no places. -/
def stripZeros (coefficient : Nat) : Nat → Nat × Nat
  | 0 => (coefficient, 0)
  | scale + 1 =>
      if coefficient % 10 = 0 then stripZeros (coefficient / 10) scale else (coefficient, scale + 1)

/-- Stripping zeros makes neither part larger. -/
theorem stripZeros_le (coefficient scale : Nat) :
    (stripZeros coefficient scale).1 ≤ coefficient ∧ (stripZeros coefficient scale).2 ≤ scale := by
  induction scale generalizing coefficient with
  | zero => simp [stripZeros]
  | succ scale ih =>
      rw [stripZeros]
      split
      · have := ih (coefficient / 10)
        exact ⟨by omega, by omega⟩
      · simp

/-- The decimal for the same number with the fewest places; zero has no sign. -/
def normalize (d : Decimal) : Decimal :=
  if d.coefficient = 0 then zero
  else
    { negative := d.negative
      coefficient := (stripZeros d.coefficient d.scale).1
      scale := (stripZeros d.coefficient d.scale).2
      coefficient_lt :=
        Nat.lt_of_le_of_lt (stripZeros_le d.coefficient d.scale).1 d.coefficient_lt
      scale_le := Nat.le_trans (stripZeros_le d.coefficient d.scale).2 d.scale_le }

/-- The digits of the coefficient with a point before its last `scale` digits. -/
def digits (coefficient scale : Nat) : List Char :=
  let whole := Nat.toDigits 10 (coefficient / tenTo scale)
  if scale = 0 then whole
  else
    let places := Nat.toDigits 10 (coefficient % tenTo scale)
    whole ++ '.' :: (List.replicate (scale - places.length) '0' ++ places)

/-- The decimal in positional notation, with all its places. -/
def text (d : Decimal) : String :=
  let digits := String.ofList (digits d.coefficient d.scale)
  if d.negative then "-" ++ digits else digits

end Decimal

end Inquiry
