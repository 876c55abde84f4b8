import Inquiry.Number.Decimal.Arithmetic

/-!
# Decimal division

The coefficients are divided as whole numbers. Where they do not divide evenly, places are added to
the quotient, up to nine at a time, until the division comes out even or there is no room for more;
then the quotient is rounded, a half to the even neighbour. Adding places in groups leaves zeros at
the end, and they are taken away in groups as well: eight at a time while the lowest word of the
coefficient is zero, and then four, two and one.
-/

namespace Inquiry.Decimal

open Number (roundDiv tenTo twoTo)

/-- A division under way. The quotient has `scale` places; a negative scale counts zeros that are
still missing at its end. -/
structure LongDivision where
  divisor : Nat
  quotient : Nat
  remainder : Nat
  scale : Int

namespace LongDivision

/-- The division of the coefficients of two decimals. -/
def start (a b : Decimal) : LongDivision where
  divisor := b.coefficient
  quotient := a.coefficient / b.coefficient
  remainder := a.coefficient % b.coefficient
  scale := (a.scale : Int) - b.scale

/-- What is being divided, in units of the last place. -/
def dividend (d : LongDivision) : Nat :=
  d.quotient * d.divisor + d.remainder

/-- How many places, up to nine, can be added to the quotient. -/
def room (d : LongDivision) : Nat :=
  let most := min 9 ((maxScale : Int) - d.scale).toNat
  ((List.range (most + 1)).reverse.find? fun n => d.quotient * tenTo n < limit).getD 0

/-- The division with further places. -/
def extend (d : LongDivision) (places : Nat) : LongDivision :=
  { d with
    quotient := d.quotient * tenTo places + d.remainder * tenTo places / d.divisor
    remainder := d.remainder * tenTo places % d.divisor
    scale := d.scale + places }

/-- The quotient rounded to one place less than it has. -/
def shortened? (d : LongDivision) : Option (Nat × Nat) :=
  if d.scale ≤ 0 then none
  else some (roundDiv d.dividend (d.divisor * 10), d.scale.toNat - 1)

/-- The quotient rounded to the places that it has, or to one less where the carry needs it. -/
def rounded? (d : LongDivision) : Option (Nat × Nat) :=
  let rounded := roundDiv d.dividend d.divisor
  if rounded < limit then some (rounded, d.scale.toNat) else d.shortened?

/-- Adds places to the quotient, at most `fuel` times. The result is a coefficient with its places. -/
def finish? : Nat → LongDivision → Option (Nat × Nat)
  | 0, _ => none
  | fuel + 1, d =>
      if limit ≤ d.quotient then d.shortened?
      else if d.remainder = 0 then
        if 0 ≤ d.scale then some (d.quotient, d.scale.toNat)
        else finish? fuel (d.extend (min 9 (-d.scale).toNat))
      else if d.room < 9 && d.scale + d.room < 0 then none
      else if d.room = 0 then d.rounded?
      else finish? fuel (d.extend d.room)

/-- The result of a division. Each step adds at least one place, so there are at most as many steps
as there are places left. -/
def result? (d : LongDivision) : Option (Nat × Nat) :=
  finish? ((maxScale : Int) + 1 - d.scale).toNat d

end LongDivision

/-- Takes zeros away from the end of a coefficient, eight at a time, while its lowest word is zero. -/
def stripEights (coefficient : Nat) : Nat → Nat × Nat
  | scale + 8 =>
      if coefficient % twoTo 32 = 0 && coefficient % tenTo 8 = 0 then
        stripEights (coefficient / tenTo 8) scale
      else (coefficient, scale + 8)
  | scale => (coefficient, scale)

/-- Takes a group of zeros away from the end of a coefficient with places, if it has them. -/
def stripGroup (zeros : Nat) (number : Nat × Nat) : Nat × Nat :=
  if zeros ≤ number.2 && number.1 % tenTo zeros = 0 then
    (number.1 / tenTo zeros, number.2 - zeros)
  else number

/-- Takes zeros away from the end of a rounded quotient. -/
def stripQuotient (number : Nat × Nat) : Nat × Nat :=
  stripGroup 1 (stripGroup 2 (stripGroup 4 (stripEights number.1 number.2)))

/-- The quotient of two decimals. Coefficients that divide evenly keep all zeros of their quotient.
There is no quotient by zero. -/
def div? (a b : Decimal) : Option Decimal :=
  if b.isZero then none
  else if a.isZero then some zero
  else do
    let number ← (LongDivision.start a b).result?
    let kept := if a.coefficient % b.coefficient = 0 then number else stripQuotient number
    ofResult? (a.negative != b.negative) kept.1 kept.2

end Inquiry.Decimal
