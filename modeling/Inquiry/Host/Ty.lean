import Inquiry.Outline
import Inquiry.Value.Kind

/-!
# Static types

The static type of an expression: a scalar kind, an object of unknown kind, a row, a mapped record by
its number, an anonymous record, or a list.
-/

namespace Inquiry.Host

/-- A static type. -/
inductive Ty where
  | scalar (kind : Kind)
  /-- A value of any kind. -/
  | object
  /-- A row whose fields are not declared. -/
  | row
  /-- A record that a mapping knows by its number. -/
  | record (id : Nat)
  /-- A record that an expression constructs. -/
  | anonymous
  | list (item : Ty)
  deriving DecidableEq

/-- The number of a record as diagnostics show it. -/
def recordText (id : Nat) : String := "RecordId(" ++ toString id ++ ")"

namespace Ty

/-- The type of truth values. -/
abbrev bool : Ty := .scalar .bool

/-- The kind of a scalar type. -/
def kind? : Ty → Option Kind
  | scalar kind => some kind
  | _ => none

def isBool : Ty → Bool
  | scalar .bool => true
  | _ => false

def isObject : Ty → Bool
  | object => true
  | _ => false

def isNumeric : Ty → Bool
  | scalar .int16 | scalar .int32 | scalar .int64 | scalar .uint8 | scalar .single
  | scalar .double | scalar .decimal => true
  | _ => false

/-- Whether values of the type are records of one form or another. -/
def isRecord : Ty → Bool
  | row | record _ | anonymous => true
  | _ => false

def isScalar : Ty → Bool
  | scalar _ => true
  | _ => false

/-- The type as diagnostics show it. -/
def outline : Ty → Outline
  | scalar kind => .word kind.name
  | object => .word "Object"
  | row => .word "DataRecord"
  | record id => .wrap "Record" (.word (recordText id))
  | anonymous => .word "Anonymous"
  | list item => .wrap "List" item.outline

end Ty

end Inquiry.Host
