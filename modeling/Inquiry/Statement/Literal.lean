import Inquiry.Error
import Inquiry.Statement.Operator
import Inquiry.Text.Quoted

/-!
# Literals

A literal is a constant in the text of a query: a value that has a written form, or a bare keyword
for a period. Lists, records and floating-point numbers that are not finite have no written form.
-/

namespace Inquiry

/-- The written form of a value, if it has one. -/
def Value.literalText? : Value → Option String
  | .null => some "NULL"
  | .bool b => some (if b then "TRUE" else "FALSE")
  | .string s => some (Text.quote s)
  | .char c => some (Text.quote (String.ofList [c]))
  | .int16 n => some (toString n.toInt)
  | .int32 n => some (toString n.toInt)
  | .int64 n => some (toString n.toInt)
  | .uint8 n => some (toString n.toNat)
  | .decimal d => some d.normalize.text
  | .single x => if x.isFinite then some x.text else none
  | .double x => if x.isFinite then some x.text else none
  | .dateTime t =>
      some ("DATETIME(" ++ toString t.date.year ++ ", " ++ toString t.date.month ++ ", " ++
        toString t.date.day ++ ", " ++ toString t.time.hour ++ ", " ++ toString t.time.minute ++
        ", " ++ toString t.time.second ++ ")")
  | .list _ | .record _ => none

namespace Statement

/-- A constant in the text of a query. -/
inductive Literal where
  | constant (value : Value) (text : String) (written : value.literalText? = some text)
  | period (kind : Period)

namespace Literal

/-- The literal of a value. -/
def ofValue (v : Value) : Except Error Literal :=
  match h : v.literalText? with
  | some text => .ok (.constant v text h)
  | none =>
      .error (.invalidStatement
        (v.variant ++ " value has no literal form; value=" ++ v.outline.line))

/-- The literal of null. -/
def null : Literal := .constant .null "NULL" rfl

/-- The value of the literal; a period stands for its keyword. -/
def value : Literal → Value
  | constant v _ _ => v
  | period kind => .string kind.keyword

/-- The literal as it is written. -/
def text : Literal → String
  | constant _ text _ => text
  | period kind => kind.keyword

/-- Whether two literals have the same value and are written alike. -/
def same (a b : Literal) : Bool := a.value.same b.value && a.text == b.text

end Literal

end Statement

end Inquiry
