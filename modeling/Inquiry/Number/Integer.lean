/-!
# Integer numerals

An integer is written as an optional sign and decimal digits. Reading stops at the first character
that is no digit, or at the first digit that takes the number out of the 64-bit range, whichever
comes first.
-/

namespace Inquiry.Number

/-- Why a text is not read as an integer. -/
inductive IntegerFault where
  | empty
  | invalidDigit
  | tooLarge
  | tooSmall
  deriving DecidableEq

namespace IntegerFault

/-- The fault in words. -/
def message : IntegerFault → String
  | empty => "cannot parse integer from empty string"
  | invalidDigit => "invalid digit found in string"
  | tooLarge => "number too large to fit in target type"
  | tooSmall => "number too small to fit in target type"

/-- The name under which the fault is outlined. -/
def label : IntegerFault → String
  | empty => "Empty"
  | invalidDigit => "InvalidDigit"
  | tooLarge => "PosOverflow"
  | tooSmall => "NegOverflow"

end IntegerFault

/-- The value of a decimal digit. -/
def digitValue (c : Char) : Nat :=
  c.toNat - '0'.toNat

/-- Reads the digits of a number after the value of the digits before them; the digits of a negative
number count downwards. -/
def readDigits (negative : Bool) (n : Int) : List Char → Except IntegerFault Int
  | [] => .ok n
  | c :: rest =>
      if c.isDigit then
        let next := if negative then 10 * n - digitValue c else 10 * n + digitValue c
        if Int64.maxValue.toInt < next then .error .tooLarge
        else if next < Int64.minValue.toInt then .error .tooSmall
        else readDigits negative next rest
      else .error .invalidDigit

/-- Reads digits, of which there must be one. -/
def readUnsigned (negative : Bool) : List Char → Except IntegerFault Int
  | [] => .error .invalidDigit
  | c :: rest => readDigits negative 0 (c :: rest)

/-- Reads an optional sign and digits as a 64-bit integer. -/
def readInteger : List Char → Except IntegerFault Int
  | [] => .error .empty
  | c :: rest =>
      if c = '-' then readUnsigned true rest
      else if c = '+' then readUnsigned false rest
      else readUnsigned false (c :: rest)

end Inquiry.Number
