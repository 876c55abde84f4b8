import Inquiry.Number.Binary.Basic

/-!
# Shortest decimal text

A floating-point number is written with the fewest decimal digits that read back as the same number,
and of those with the digits nearest to it. The numbers that read back as it lie between the
midpoints to its two neighbours; the midpoints themselves belong to it when its significand is even.

For one digit, two digits and so on, the two neighbours of the number on that decimal grid are tried;
the first grid with a hit wins, the nearer of two hits is taken, and of two equally near the upper.
-/

namespace Inquiry.Binary

/-- The number `digits * 10 ^ exponent`. -/
structure Shortest where
  digits : Nat
  exponent : Int
  deriving DecidableEq

namespace Shortest

/-- The number of decimal digits. -/
def width (n : Nat) : Nat := (Nat.toDigits 10 n).length

/-- The exponent of the greatest power of ten that is at most the positive fraction `num / den`. -/
def decade (num den : Nat) : Int :=
  if den ≤ num then (width (num / den) : Int) - 1
  else - (width ((den - 1) / num) : Int)

/-- The fraction `num / den`, divided by a power of ten. -/
def divideByTens (num den : Nat) (exponent : Int) : Nat × Nat :=
  if 0 ≤ exponent then (num, den * Number.tenTo exponent.toNat)
  else (num * Number.tenTo (-exponent).toNat, den)

/-- The numbers that read back as one number, in units of `num / den`: the number is `value` units,
the midpoints to its neighbours lie `below` and `above` it. -/
structure Interval where
  value : Nat
  below : Nat
  above : Nat
  closed : Bool
  num : Nat
  den : Nat

/-- The interval of the number `significand * 2 ^ exponent`, in quarters of its last place. The
neighbour below a power of two is nearer than the one above. -/
def interval (f : Format) (significand : Nat) (exponent : Int) : Interval :=
  let (num, den) := Format.divideByPower 1 1 (2 - exponent)
  { value := 4 * significand
    below := if significand = f.unit then 1 else 2
    above := 2
    closed := significand % 2 == 0
    num := num
    den := den }

/-- Whether the multiple `k` of `10 ^ exponent` lies in the interval. -/
def Interval.holds (i : Interval) (exponent : Int) (k : Nat) : Bool :=
  let (n, d) := divideByTens i.num i.den exponent
  let low := (i.value - i.below) * n
  let high := (i.value + i.above) * n
  if i.closed then low ≤ k * d && k * d ≤ high else low < k * d && k * d < high

/-- The neighbour of the number on the grid of multiples of `10 ^ exponent` that lies in the
interval, if one does. -/
def Interval.onGrid (i : Interval) (exponent : Int) : Option Nat :=
  let (n, d) := divideByTens i.num i.den exponent
  let floor := i.value * n / d
  match i.holds exponent floor, i.holds exponent (floor + 1) with
  | true, true => some (Number.roundDivUp (i.value * n) d)
  | true, false => some floor
  | false, true => some (floor + 1)
  | false, false => none

/-- Removes zeros at the end of the digits. The budget bounds the number of zeros. -/
def strip : Nat → Shortest → Shortest
  | 0, s => s
  | budget + 1, s =>
      if s.digits ≠ 0 && s.digits % 10 == 0 then strip budget ⟨s.digits / 10, s.exponent + 1⟩ else s

/-- The shortest decimal that reads back as the number `significand * 2 ^ exponent`. -/
def ofBinary (f : Format) (significand : Nat) (exponent : Int) : Shortest :=
  if significand = 0 then ⟨0, 0⟩
  else
    let i := interval f significand exponent
    let top := decade (i.value * i.num) i.den
    let found := (List.range 17).findSome? fun (places : Nat) =>
      (i.onGrid (top - places)).map fun k => (⟨k, top - places⟩ : Shortest)
    match found with
    | some s => strip 17 s
    | none => ⟨0, 0⟩

/-- The number in positional notation. -/
def positional (s : Shortest) : List Char :=
  let ds := Nat.toDigits 10 s.digits
  if 0 ≤ s.exponent then ds ++ List.replicate s.exponent.toNat '0'
  else
    let places := (-s.exponent).toNat
    if places < ds.length then ds.take (ds.length - places) ++ '.' :: ds.drop (ds.length - places)
    else '0' :: '.' :: (List.replicate (places - ds.length) '0' ++ ds)

/-- The exponent of the first digit. -/
def magnitude (s : Shortest) : Int := (width s.digits : Int) - 1 + s.exponent

/-- The number with one digit before the point and an exponent. -/
def scientific (s : Shortest) : List Char :=
  let exponent := 'e' :: (toString s.magnitude).toList
  match Nat.toDigits 10 s.digits with
  | [] => exponent
  | [d] => d :: exponent
  | d :: rest => d :: '.' :: (rest ++ exponent)

/-- The number as diagnostics show it: positional between a ten-thousandth and `10 ^ 16`, with a
point even when it is whole. -/
def shown (s : Shortest) : List Char :=
  if s.digits ≠ 0 && (s.magnitude < -4 || 16 ≤ s.magnitude) then s.scientific
  else if 0 ≤ s.exponent then s.positional ++ ['.', '0']
  else s.positional

end Shortest

namespace Format

/-- A number of the format as text, its finite magnitudes written by `write`. -/
def textWith (f : Format) (write : Shortest → List Char) : Datum → String
  | .nan => "NaN"
  | .infinite negative => if negative then "-inf" else "inf"
  | .finite negative significand exponent =>
      let digits := String.ofList (write (.ofBinary f significand exponent))
      if negative then "-" ++ digits else digits

end Format

end Inquiry.Binary

namespace Inquiry

/-- The number in positional notation, with the fewest digits that read back. -/
def Double.text (x : Double) : String :=
  Binary.Format.double.textWith Binary.Shortest.positional x.datum

/-- The number as diagnostics show it. -/
def Double.shown (x : Double) : String :=
  Binary.Format.double.textWith Binary.Shortest.shown x.datum

/-- The number in positional notation, with the fewest digits that read back. -/
def Single.text (x : Single) : String :=
  Binary.Format.single.textWith Binary.Shortest.positional x.datum

/-- The number as diagnostics show it. -/
def Single.shown (x : Single) : String :=
  Binary.Format.single.textWith Binary.Shortest.shown x.datum

end Inquiry
