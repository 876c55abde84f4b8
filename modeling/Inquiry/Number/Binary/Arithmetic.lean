import Inquiry.Number.Binary.Basic

/-!
# Arithmetic of floating-point numbers

Each operation computes with the exact meanings of its operands and rounds once. A sum that cancels
is positive zero unless both operands are negative; the other signs multiply.
-/

namespace Inquiry

namespace Binary.Datum

/-- The datum as a whole number of `2 ^ low`, for an exponent of at least `low`. -/
def scaled (negative : Bool) (significand : Nat) (exponent low : Int) : Int :=
  let magnitude : Int := significand * Number.twoTo (exponent - low).toNat
  if negative then -magnitude else magnitude

/-- The whole number that the datum denotes, if it denotes one. -/
def toInt? : Datum → Option Int
  | .finite negative significand exponent =>
      let (n, d) := Format.divideByPower significand 1 (-exponent)
      if n % d = 0 then some (if negative then -(n / d : Nat) else (n / d : Nat)) else none
  | _ => none

/-- The order of two numbers; there is none where one of them is not a number. -/
def compare? : Datum → Datum → Option Ordering
  | .nan, _ => none
  | _, .nan => none
  | .infinite s, .infinite t => some (compare t.toNat s.toNat)
  | .infinite s, .finite .. => some (if s then .lt else .gt)
  | .finite .., .infinite t => some (if t then .gt else .lt)
  | .finite s m e, .finite t n g =>
      let low := min e g
      some (compare (scaled s m e low) (scaled t n g low))

end Binary.Datum

namespace Double

open Binary

/-- The negated number, which differs in its sign only. -/
def neg (x : Double) : Double := ⟨x.bits ^^^ UInt64.ofNat Format.double.signBit⟩

/-- The sum of two numbers. -/
def add (x y : Double) : Double :=
  match x.datum, y.datum with
  | .nan, _ => nan
  | _, .nan => nan
  | .infinite s, .infinite t => if s = t then x else nan
  | .infinite _, .finite .. => x
  | .finite .., .infinite _ => y
  | .finite s m e, .finite t n g =>
      let low := min e g
      let sum := Datum.scaled s m e low + Datum.scaled t n g low
      if sum = 0 then .ofFraction (s && t) 0 1
      else .ofDatum (.finite (sum < 0) sum.natAbs low)

/-- The difference of two numbers. -/
def sub (x y : Double) : Double := x.add y.neg

/-- The product of two numbers. -/
def mul (x y : Double) : Double :=
  match x.datum, y.datum with
  | .nan, _ => nan
  | _, .nan => nan
  | .infinite s, .infinite t => .ofDatum (.infinite (s != t))
  | .infinite s, .finite t n _ => if n = 0 then nan else .ofDatum (.infinite (s != t))
  | .finite s m _, .infinite t => if m = 0 then nan else .ofDatum (.infinite (s != t))
  | .finite s m e, .finite t n g => .ofDatum (.finite (s != t) (m * n) (e + g))

/-- The quotient of two numbers. -/
def div (x y : Double) : Double :=
  match x.datum, y.datum with
  | .nan, _ => nan
  | _, .nan => nan
  | .infinite _, .infinite _ => nan
  | .infinite s, .finite t _ _ => .ofDatum (.infinite (s != t))
  | .finite s _ _, .infinite t => .ofFraction (s != t) 0 1
  | .finite s m e, .finite t n g =>
      if n = 0 then if m = 0 then nan else .ofDatum (.infinite (s != t))
      else
        let (a, b) := Format.divideByPower m n (g - e)
        .ofFraction (s != t) a b

/-- The nearest whole number, a half going away from zero. -/
def round (x : Double) : Double :=
  match x.datum with
  | .finite s m e =>
      let (n, d) := Format.divideByPower m 1 (-e)
      .ofFraction s (Number.roundDivUp n d) 1
  | _ => x

/-- The order of two numbers; there is none where one of them is not a number. -/
def compare? (x y : Double) : Option Ordering := x.datum.compare? y.datum

end Double

end Inquiry
