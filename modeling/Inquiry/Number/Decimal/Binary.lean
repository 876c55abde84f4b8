import Inquiry.Number.Decimal.Basic
import Inquiry.Number.Binary.Arithmetic

/-!
# Decimals and floating-point numbers

A floating-point number without a fraction becomes the decimal of the same value, if there is one.
Any other trades its power of two for a power of ten: a halving is a multiplication by five and one
more place. Digits that do not fit the coefficient are lost on the way. The result keeps no more digits
than the floating-point format guarantees and no zeros at its end.

A decimal becomes a floating-point number as its whole part plus its fraction, brought back to a
whole number of units in its last place.
-/

namespace Inquiry

namespace Decimal

open Number (tenTo twoTo)

/-- Divides a coefficient by two as often as told; the places are those that it needs if each halving
is a multiplication by five. A coefficient that is even, or too large for another factor of five, is
halved and needs one place less; otherwise it is multiplied by five. -/
def halveTimes : Nat → Nat → Nat → Nat × Nat
  | 0, coefficient, places => (coefficient, places)
  | times + 1, coefficient, places =>
      if coefficient % 2 = 0 || limit ≤ coefficient * 5 then
        halveTimes times (coefficient / 2) (places - 1)
      else halveTimes times (coefficient * 5) places

/-- Drops as many places as told from a coefficient with `scale + times` places, rounding each time; a
coefficient that vanishes becomes plain zero. -/
def dropPlaces : Nat → Nat → Nat → Nat × Nat
  | 0, coefficient, scale => (coefficient, scale)
  | times + 1, coefficient, scale =>
      if coefficient / 10 = 0 then (0, 0)
      else dropPlaces times (Number.roundDivUp coefficient 10) scale

/-- Drops places, rounding each time, until the coefficient is below the bound. -/
def dropBelow (bound coefficient : Nat) : Nat → Nat × Nat
  | 0 => (coefficient, 0)
  | scale + 1 =>
      if bound ≤ coefficient then dropBelow bound (Number.roundDivUp coefficient 10) scale
      else (coefficient, scale + 1)

/-- The decimal for a coefficient with places, with digits below the bound. A number that vanishes
keeps its sign. -/
def ofPlaces? (bound : Nat) (negative : Bool) (coefficient places : Nat) : Option Decimal :=
  let kept := dropPlaces (places - maxScale) coefficient (min places maxScale)
  let short := dropBelow bound kept.1 kept.2
  let plain := stripZeros short.1 short.2
  ofParts? negative plain.1 plain.2

/-- The decimal for a floating-point number, with digits below the bound where it has places. A whole
number is exact, and there is none for a number beyond the bound of the coefficients. -/
def ofDatum? (bound : Nat) : Binary.Datum → Option Decimal
  | .finite negative significand exponent =>
      if significand = 0 then some { zero with negative := negative }
      else if 0 ≤ exponent then ofParts? negative (significand * twoTo exponent.toNat) 0
      else
        let traded := halveTimes (-exponent).toNat significand (-exponent).toNat
        ofPlaces? bound negative traded.1 traded.2
  | _ => none

/-- The decimal for a number of 64 bits. -/
def ofDouble? (x : Double) : Option Decimal := ofDatum? (twoTo 52) x.datum

/-- The decimal for a number of 32 bits. -/
def ofSingle? (x : Single) : Option Decimal := ofDatum? (twoTo 24) x.datum

/-- The floating-point number for the magnitude of a decimal. -/
def magnitude (d : Decimal) : Double :=
  let unit := tenTo d.scale
  let whole := Double.ofNat (d.coefficient / unit)
  if d.coefficient % unit = 0 then whole
  else
    let places := Double.ofNat unit
    let fraction := (Double.ofNat (d.coefficient % unit)).div places
    (((whole.add fraction).mul places).round).div places

/-- The floating-point number for a decimal; zero without places has no sign. -/
def toDouble (d : Decimal) : Double :=
  if d.negative && (d.coefficient != 0 || d.scale != 0) then d.magnitude.neg else d.magnitude

end Decimal

end Inquiry
