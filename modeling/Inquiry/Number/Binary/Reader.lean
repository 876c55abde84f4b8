import Inquiry.Number.Binary.Basic
import Inquiry.Number.Integer

/-!
# Reading floating-point numbers

A number is written as an optional sign, digits with an optional point among or around them, and an
optional exponent; or as one of the words for infinity and for what is not a number, in any case. The
result is the floating-point number nearest to the exact value.
-/

namespace Inquiry.Binary

/-- Why a text is not read as a floating-point number. -/
inductive Fault where
  | empty
  | invalid
  deriving DecidableEq

namespace Fault

/-- The fault in words. -/
def message : Fault → String
  | empty => "cannot parse float from empty string"
  | invalid => "invalid float literal"

/-- The name under which the fault is outlined. -/
def label : Fault → String
  | empty => "Empty"
  | invalid => "Invalid"

end Fault

/-- The number `digits * 10 ^ exponent`, as it is written. -/
structure Numeral where
  digits : List Char
  exponent : Int

namespace Numeral

/-- The exponent after its mark: an optional sign and digits. -/
def exponent? (cs : List Char) : Option Int :=
  let (negative, ds) := match cs with
    | '-' :: rest => (true, rest)
    | '+' :: rest => (false, rest)
    | _ => (false, cs)
  if ds.isEmpty || !ds.all Char.isDigit then none
  else
    let n : Int := Nat.ofDigitChars 10 ds 0
    some (if negative then -n else n)

/-- Adds an optional exponent to digits that end at `cs`. -/
def finish (digits : List Char) (places : Nat) (cs : List Char) : Option Numeral :=
  if digits.isEmpty then none
  else
    match cs with
    | [] => some ⟨digits, -places⟩
    | c :: rest =>
        if c = 'e' || c = 'E' then (exponent? rest).map fun e => ⟨digits, e - places⟩ else none

/-- Reads digits, an optional point with digits, and an optional exponent. -/
def read? (cs : List Char) : Option Numeral :=
  let whole := cs.takeWhile Char.isDigit
  match cs.dropWhile Char.isDigit with
  | '.' :: rest =>
      let places := rest.takeWhile Char.isDigit
      finish (whole ++ places) places.length (rest.dropWhile Char.isDigit)
  | rest => finish whole 0 rest

/-- The word of the number nearest to the numeral. The magnitude of the numeral decides alone when it
is beyond every number of the formats in use. -/
def nearest (f : Format) (n : Numeral) : Nat :=
  let digits := n.digits.dropWhile (· = '0')
  let value := Nat.ofDigitChars 10 digits 0
  let magnitude : Int := digits.length + n.exponent
  if value = 0 || magnitude < -400 then 0
  else if 400 < magnitude then f.infinity
  else if 0 ≤ n.exponent then f.nearest (value * Number.tenTo n.exponent.toNat) 1
  else f.nearest value (Number.tenTo (-n.exponent).toNat)

end Numeral

/-- The word for an unsigned text. -/
def Format.read? (f : Format) (cs : List Char) : Option Nat :=
  match Numeral.read? cs with
  | some n => some (n.nearest f)
  | none =>
      let word := String.ofList (cs.map Char.toLower)
      if word = "inf" || word = "infinity" then some f.infinity
      else if word = "nan" then some f.notNumber
      else none

/-- Reads a number of the format. -/
def Format.read (f : Format) : List Char → Except Fault Nat
  | [] => .error .empty
  | c :: rest =>
      let negative := c == '-'
      let body := if c = '-' || c = '+' then rest else c :: rest
      match f.read? body with
      | some word => .ok (f.signed negative word)
      | none => .error .invalid

end Inquiry.Binary

namespace Inquiry

/-- Reads a number of 64 bits. -/
def Double.read (cs : List Char) : Except Binary.Fault Double :=
  (Binary.Format.double.read cs).map fun word => ⟨UInt64.ofNat word⟩

end Inquiry
