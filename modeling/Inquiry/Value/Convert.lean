import Inquiry.Error
import Inquiry.Number.Decimal.Binary
import Inquiry.Value.Kind

/-!
# Conversion of values

Raw column values are converted to the kind that a result expects, and folded constants to their
static type. Null converts to null. Integers are range checked; a number with a fraction converts to
floating-point and decimal kinds only; texts are read.
-/

namespace Inquiry.Value

/-- The text of a scalar value. -/
def scalarText? : Value → Option String
  | string s => some s
  | char c => some (String.ofList [c])
  | int16 n => some (toString n.toInt)
  | int32 n => some (toString n.toInt)
  | int64 n => some (toString n.toInt)
  | uint8 n => some (toString n.toNat)
  | single x => some x.text
  | double x => some x.text
  | decimal d => some d.text
  | bool b => some (if b then "true" else "false")
  | dateTime t => some t.text
  | list _ | null | record _ => none

/-- Whether the text is the word, in any case of the letters of ASCII. -/
def isWord (word s : String) : Bool :=
  s.toList.map Char.toLower == word.toList

/-- The truth value that a value stands for: an integer is true unless it is zero. -/
def truth? : Value → Option Bool
  | bool b => some b
  | string s => if isWord "true" s then some true else if isWord "false" s then some false else none
  | v => v.int64?.map fun n => n != 0

/-- The character that a value stands for. -/
def char? : Value → Option Char
  | char c => some c
  | string s =>
      match s.toList with
      | [c] => some c
      | _ => none
  | _ => none

/-- A point in time from a value. -/
def toDateTime (v : Value) : Except Error DateTime :=
  match v with
  | dateTime t => .ok t
  | string s => (DateTime.read s.toList).mapError fun f => .fault (.date f)
  | _ => .error (.conversion v "DateTime")

/-- A result that may be missing. -/
def orConversion {α : Type} (v : Value) (target : String) : Option α → Except Error α
  | some a => .ok a
  | none => .error (.conversion v target)

/-- A decimal from a value. -/
def toDecimal (v : Value) : Except Error Decimal :=
  match v with
  | decimal d => .ok d
  | single x => orConversion v "Decimal" (Decimal.ofSingle? x)
  | double x => orConversion v "Decimal" (Decimal.ofDouble? x)
  | string s => (Decimal.read s.toList).mapError fun f => .fault (.decimal f)
  | _ => orConversion v "Decimal" (v.int64?.map Decimal.ofInt64)

/-- A number of 64 bits from a value; `target` names the kind that was asked for. -/
def toDouble (v : Value) (target : String) : Except Error Double :=
  match v with
  | single x => .ok x.widen
  | double x => .ok x
  | decimal d => .ok d.toDouble
  | string s => (Double.read s.toList).mapError fun f => .fault (.float f)
  | _ => orConversion v target (v.int64?.map fun n => .ofInt n.toInt)

/-- A number of 32 bits from a value. A finite number must stay finite. -/
def toSingle (v : Value) : Except Error Single := do
  let wide ← v.toDouble "F32"
  if wide.isFinite && !wide.narrow.isFinite then .error (.conversion v "F32") else .ok wide.narrow

/-- Whether the number fits 64 bits. -/
def isInt64 (n : Int) : Bool := Int64.minValue.toInt ≤ n && n ≤ Int64.maxValue.toInt

/-- The whole number that a value denotes, if it denotes one of 64 bits. -/
def whole (v : Value) : Except Error (Option Int) :=
  match v with
  | decimal d => .ok (d.toInt?.filter isInt64)
  | single x => .ok (x.datum.toInt?.filter isInt64)
  | double x => .ok (x.datum.toInt?.filter isInt64)
  | string s =>
      match Number.readInteger (Text.trim s.toList) with
      | .ok n => .ok (some n)
      | .error f => .error (.fault (.integer f))
  | _ => .ok (v.int64?.map (·.toInt))

/-- The integer of a kind with the given value, if the kind has it. -/
def ofWhole? (k : Kind) (n : Int) : Option Value :=
  match k with
  | .int16 =>
      if Int16.minValue.toInt ≤ n && n ≤ Int16.maxValue.toInt then some (int16 (.ofInt n)) else none
  | .int32 =>
      if Int32.minValue.toInt ≤ n && n ≤ Int32.maxValue.toInt then some (int32 (.ofInt n)) else none
  | .int64 => if isInt64 n then some (int64 (.ofInt n)) else none
  | .uint8 => if 0 ≤ n && n < 256 then some (uint8 (.ofNat n.toNat)) else none
  | _ => none

/-- An integer of a kind from a value. -/
def toInteger (v : Value) (k : Kind) : Except Error Value := do
  let n ← v.whole
  orConversion v k.name (n.bind (ofWhole? k))

/-- Converts a value that is not null. -/
def convertScalar (v : Value) (k : Kind) : Except Error Value :=
  match k with
  | .string => (orConversion v "String" v.scalarText?).map string
  | .bool => (orConversion v "Bool" v.truth?).map bool
  | .char => (orConversion v "Char" v.char?).map char
  | .dateTime => v.toDateTime.map dateTime
  | .decimal => v.toDecimal.map decimal
  | .single => v.toSingle.map single
  | .double => (v.toDouble k.name).map double
  | .int16 | .int32 | .int64 | .uint8 => v.toInteger k

/-- Converts a value to a kind. Null stays null. -/
def convert (v : Value) (k : Kind) : Except Error Value :=
  match v with
  | null => .ok null
  | _ => v.convertScalar k

end Inquiry.Value
