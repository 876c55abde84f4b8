import Inquiry.Number.Decimal.Arithmetic
import Inquiry.Number.Integer

/-!
# Reading decimals

A decimal is written as an optional sign and digits with at most one point; underscores may stand
after the first digit. Digits are taken while the coefficient fits and there are places left. Of the
digits beyond that, the first decides how the last place is rounded; before the point they are an
overflow.

A text with an exponent mark is a decimal and a power of ten of at most 28.
-/

namespace Inquiry.Decimal

/-- Why a text is not read as a decimal. -/
inductive Fault where
  | empty
  | noDigits
  | leadingUnderscore
  | secondPoint
  | unknownCharacter
  | tooManyDigits
  | roundingOverflow
  | badExponent
  | overflow
  | scale (places : Nat)
  deriving DecidableEq

/-- The fault in words. -/
def Fault.message : Fault → String
  | empty => "Invalid decimal: empty"
  | noDigits => "Invalid decimal: no digits found"
  | leadingUnderscore => "Invalid decimal: must start lead with a number"
  | secondPoint => "Invalid decimal: two decimal points"
  | unknownCharacter => "Invalid decimal: unknown character"
  | tooManyDigits => "Invalid decimal: overflow from too many digits"
  | roundingOverflow => "Invalid decimal: overflow from mantissa after rounding"
  | badExponent => "Failed to parse"
  | overflow => "Number exceeds maximum value that can be represented."
  | scale places =>
      "Scale exceeds the maximum precision allowed: " ++ toString places ++ " > " ++
        toString maxScale

/-- The fault of a character that cannot stand where it does. -/
def strayFault (c : Char) : Fault :=
  if c = '.' then .secondPoint else if c = '_' then .leadingUnderscore else .unknownCharacter

/-- The decimal of the digits that were read. -/
def finish (negative : Bool) (coefficient scale : Nat) : Except Fault Decimal :=
  match ofResult? negative coefficient scale with
  | some d => .ok d
  | none => .error .tooManyDigits

/-- The digits that were read with the last one raised by one. -/
def roundUp (negative : Bool) (coefficient scale : Nat) : Except Fault Decimal :=
  if coefficient + 1 < limit then finish negative (coefficient + 1) scale
  else if scale = 0 then .error .roundingOverflow
  else finish negative ((coefficient + 5) / 10) (scale - 1)

/-- Rounds the digits that were read by the first digit beyond them. -/
def roundBy (negative : Bool) (coefficient scale : Nat) (beyond : List Char) :
    Except Fault Decimal :=
  match beyond.find? fun c => !(c.isDigit || c = '_') with
  | some c => .error (strayFault c)
  | none =>
      match beyond.find? Char.isDigit with
      | some c =>
          if 5 ≤ Number.digitValue c then roundUp negative coefficient scale
          else finish negative coefficient scale
      | none => finish negative coefficient scale

/-- Reads the places after the point. `some` is given once a digit was read. -/
def readPlaces (negative : Bool) (coefficient : Nat) (scale : Nat) (some : Bool) :
    List Char → Except Fault Decimal
  | [] => if some then finish negative coefficient scale else .error .noDigits
  | c :: rest =>
      if some && scale = maxScale then roundBy negative coefficient scale (c :: rest)
      else if c.isDigit then
        let next := 10 * coefficient + Number.digitValue c
        if next < limit then readPlaces negative next (scale + 1) true rest
        else roundBy negative coefficient scale (c :: rest)
      else if c = '_' && some then readPlaces negative coefficient scale some rest
      else .error (strayFault c)

/-- Reads the digits before the point. `some` is given once a digit was read. -/
def readWhole (negative : Bool) (coefficient : Nat) (some : Bool) :
    List Char → Except Fault Decimal
  | [] => if some then finish negative coefficient 0 else .error .noDigits
  | c :: rest =>
      if c.isDigit then
        let next := 10 * coefficient + Number.digitValue c
        if next < limit then readWhole negative next true rest else .error .tooManyDigits
      else if c = '.' then readPlaces negative coefficient 0 some rest
      else if c = '_' && some then readWhole negative coefficient some rest
      else .error (strayFault c)

/-- Reads a decimal without an exponent. -/
def readPlain : List Char → Except Fault Decimal
  | [] => .error .empty
  | c :: rest =>
      if c = '-' then readWhole true 0 false rest
      else if c = '+' then readWhole false 0 false rest
      else readWhole false 0 false (c :: rest)

/-- The value of an exponent: an optional plus sign and digits below `2 ^ 32`. -/
def exponent? (cs : List Char) : Option Nat :=
  let ds := match cs with
    | '+' :: rest => rest
    | _ => cs
  if ds.isEmpty || !ds.all Char.isDigit then none
  else
    let n := Nat.ofDigitChars 10 ds 0
    if n < Number.twoTo 32 then some n else none

/-- The decimal divided by a power of ten; places beyond the last are rounded off, a half away from
zero. -/
def shiftDown (d : Decimal) (power : Nat) : Except Fault Decimal :=
  if maxScale < power then .error (.scale power)
  else
    let excess := d.scale + power - maxScale
    match ofParts? d.negative (Number.roundDivUp d.coefficient (Number.tenTo excess))
        (d.scale + power - excess) with
    | some r => .ok r
    | none => .error .overflow

/-- The decimal multiplied by a power of ten, without superfluous places. -/
def shiftUp (d : Decimal) (power : Nat) : Except Fault Decimal :=
  if power ≤ d.scale then
    match ofParts? d.negative d.coefficient (d.scale - power) with
    | some r => .ok r
    | none => .error .overflow
  else if maxScale < power then .error (.scale power)
  else
    match ofResult? d.negative (d.coefficient * Number.tenTo (power - d.scale)) 0 with
    | some r => .ok r.normalize
    | none => .error .overflow

/-- Whether the character marks an exponent. -/
def isExponentMark (c : Char) : Bool := c = 'e' || c = 'E'

/-- Reads a decimal. -/
def read (cs : List Char) : Except Fault Decimal :=
  match cs.dropWhile (!isExponentMark ·) with
  | [] => readPlain cs
  | _ :: exponent => do
      let base ← readPlain (cs.takeWhile (!isExponentMark ·))
      match exponent with
      | '-' :: ds =>
          match exponent? ds with
          | some power => shiftDown base power
          | none => .error .badExponent
      | ds =>
          match exponent? ds with
          | some power => shiftUp base power
          | none => .error .badExponent

end Inquiry.Decimal
