import Inquiry.Number.Power
import Inquiry.Number.Rounding

/-!
# Binary floating-point numbers

A floating-point number is a word of bits: a sign, an exponent and a fraction. `Format.decode` gives
its meaning, a whole significand times a power of two. `Format.encode` goes back: it takes any
fraction of whole numbers to the nearest number of the format, a tie to the one with an even
significand. All arithmetic is exact arithmetic on decoded numbers followed by one rounding.
-/

namespace Inquiry

namespace Binary

/-- A binary format, by the widths of its fraction and exponent. -/
structure Format where
  fractionBits : Nat
  exponentBits : Nat

/-- The meaning of a word of bits. -/
inductive Datum where
  | nan
  | infinite (negative : Bool)
  /-- The number `significand * 2 ^ exponent`, or its negative. -/
  | finite (negative : Bool) (significand : Nat) (exponent : Int)
  deriving DecidableEq

namespace Format

open Number (twoTo)

/-- The format of 64 bits. -/
def double : Format := ⟨52, 11⟩

/-- The format of 32 bits. -/
def single : Format := ⟨23, 8⟩

/-- The least significand with the leading bit set. -/
def unit (f : Format) : Nat := twoTo f.fractionBits

/-- The weight of the sign. -/
def signBit (f : Format) : Nat := twoTo (f.fractionBits + f.exponentBits)

/-- The exponent of the last place of the smallest numbers. -/
def leastExponent (f : Format) : Int :=
  2 - (twoTo (f.exponentBits - 1) : Int) - f.fractionBits

/-- The word of positive infinity, which is above the words of all positive numbers. -/
def infinity (f : Format) : Nat := (twoTo f.exponentBits - 1) * f.unit

/-- The word of the number that is not a number. -/
def notNumber (f : Format) : Nat := f.infinity + f.unit / 2

/-- The meaning of a word. -/
def decode (f : Format) (word : Nat) : Datum :=
  let negative := word / f.signBit % 2 == 1
  let exponent := word / f.unit % twoTo f.exponentBits
  let fraction := word % f.unit
  if exponent == twoTo f.exponentBits - 1 then
    if fraction == 0 then .infinite negative else .nan
  else if exponent == 0 then .finite negative fraction f.leastExponent
  else .finite negative (f.unit + fraction) (f.leastExponent + (exponent - 1 : Nat))

/-- The fraction `num / den`, divided by a power of two. -/
def divideByPower (num den : Nat) (exponent : Int) : Nat × Nat :=
  if 0 ≤ exponent then (num, den * twoTo exponent.toNat)
  else (num * twoTo (-exponent).toNat, den)

/-- The exponent of the greatest power of two that is at most the fraction `num / den`. -/
def floorLog (num den : Nat) : Int :=
  let guess : Int := (num.log2 : Int) - den.log2
  let (n, d) := divideByPower num den guess
  if d ≤ n then guess else guess - 1

/-- The word of the number nearest to the fraction `num / den`. Words count upwards through all
positive numbers, so a carry out of the significand moves on to the next exponent. -/
def nearest (f : Format) (num den : Nat) : Nat :=
  if num = 0 then 0
  else
    let exponent := max f.leastExponent (floorLog num den - f.fractionBits)
    let (n, d) := divideByPower num den exponent
    min ((exponent - f.leastExponent).toNat * f.unit + Number.roundDiv n d) f.infinity

/-- The word with the given sign and magnitude. -/
def signed (f : Format) (negative : Bool) (magnitude : Nat) : Nat :=
  if negative then f.signBit + magnitude else magnitude

/-- The word whose meaning is nearest to a datum. -/
def encode (f : Format) : Datum → Nat
  | .nan => f.notNumber
  | .infinite negative => f.signed negative f.infinity
  | .finite negative significand exponent =>
      let (n, d) := divideByPower significand 1 (-exponent)
      f.signed negative (f.nearest n d)

end Format

end Binary

/-- A floating-point number of 64 bits. -/
structure Double where
  bits : UInt64
  deriving DecidableEq

/-- A floating-point number of 32 bits. -/
structure Single where
  bits : UInt32
  deriving DecidableEq

namespace Double

/-- The meaning of the number. -/
def datum (x : Double) : Binary.Datum := Binary.Format.double.decode x.bits.toNat

/-- The number nearest to a datum. -/
def ofDatum (d : Binary.Datum) : Double := ⟨UInt64.ofNat (Binary.Format.double.encode d)⟩

/-- The number that is not a number. -/
def nan : Double := ofDatum .nan

/-- The number nearest to a fraction of whole numbers. -/
def ofFraction (negative : Bool) (num den : Nat) : Double :=
  ⟨UInt64.ofNat (Binary.Format.double.signed negative (Binary.Format.double.nearest num den))⟩

/-- The number nearest to a natural number. -/
def ofNat (n : Nat) : Double := ofFraction false n 1

/-- The number nearest to an integer. -/
def ofInt (n : Int) : Double := ofFraction (n < 0) n.natAbs 1

/-- Whether the number is neither infinite nor the number that is not a number. -/
def isFinite (x : Double) : Bool :=
  match x.datum with
  | .finite .. => true
  | _ => false

end Double

namespace Single

/-- The meaning of the number. -/
def datum (x : Single) : Binary.Datum := Binary.Format.single.decode x.bits.toNat

/-- The number nearest to a datum. -/
def ofDatum (d : Binary.Datum) : Single := ⟨UInt32.ofNat (Binary.Format.single.encode d)⟩

/-- Whether the number is neither infinite nor the number that is not a number. -/
def isFinite (x : Single) : Bool :=
  match x.datum with
  | .finite .. => true
  | _ => false

/-- The same number in 64 bits. -/
def widen (x : Single) : Double := .ofDatum x.datum

end Single

/-- The nearest number of 32 bits. -/
def Double.narrow (x : Double) : Single := .ofDatum x.datum

end Inquiry
