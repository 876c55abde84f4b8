import Inquiry.Number.Binary.Reader
import Inquiry.Number.Decimal.Reader
import Inquiry.Value.Basic

/-!
# Errors

An error is a cause, or an error raised on top of another one. A cause says what went wrong;
`Cause.message` puts it into words. An error raised on top of another answers for the pair and names
both, its own words first.

Some operations have a contract, and where it is broken the program stops. That a contract was broken
is a cause like the others, so that it can be followed through a computation, and be ruled out.
-/

namespace Inquiry

/-- A fault found while reading text, or a note from outside. -/
inductive Fault where
  | note (message : String)
  | integer (fault : Number.IntegerFault)
  | float (fault : Binary.Fault)
  | decimal (fault : Decimal.Fault)
  | date (fault : Calendar.Fault)

namespace Fault

/-- The fault in words. -/
def message : Fault → String
  | note message => message
  | integer fault => fault.message
  | float fault => fault.message
  | decimal fault => fault.message
  | date fault => fault.message

/-- The fault as diagnostics show it. -/
def outline : Fault → Outline
  | note message => .text message
  | integer fault => .fields "ParseIntError" [("kind", .word fault.label)]
  | float fault => .fields "ParseFloatError" [("kind", .word fault.label)]
  | decimal (.scale places) => .wrap "ScaleExceedsMaximumPrecision" (.word (toString places))
  | decimal .overflow => .word "ExceedsMaximumPossibleValue"
  | decimal fault => .wrap "ErrorString" (.text fault.message)
  | date fault => .wrap "ParseError" (.word fault.label)

end Fault

/-- A use of an operation that breaks its contract: there is no answer, and the program stops. The one
who is at fault is the caller of the operation, and that may be the library itself. -/
inductive Misuse where
  /-- A function was given the wrong number of arguments. -/
  | arity (function : String) (expected given : Nat)
  /-- A record was asked for that a schema does not have. -/
  | recordIndex (size index : Nat)
  /-- A field was asked for that a record does not have. -/
  | missingField (name : String) (names : List String)
  /-- Constants were compared by an operator that is not a relation. -/
  | notComparison (operator : String)
  /-- A count was asked for as the aggregate of an operand. -/
  | countAggregate

/-- The misuse in words. -/
def Misuse.message : Misuse → String
  | arity function expected given =>
      "assertion `left == right` failed: wrong number of arguments for " ++ function ++
        "\n  left: " ++ toString expected ++ "\n right: " ++ toString given
  | recordIndex size index =>
      "index out of bounds: the len is " ++ toString size ++ " but the index is " ++ toString index
  | missingField name names =>
      "no field `" ++ name ++ "` in record; fields=" ++ (Outline.items (names.map .text)).line
  | notComparison operator =>
      "internal error: entered unreachable code: not a comparison; op=" ++ operator
  | countAggregate => "internal error: entered unreachable code: COUNT is built separately"

/-- What went wrong. -/
inductive Cause where
  /-- Something that has no cause of its own here. -/
  | plain (message : String)
  /-- A text could not be read. -/
  | fault (fault : Fault)
  /-- A row has fewer values than a reader asks for. -/
  | indexOutOfRange (index size : Nat)
  /-- A record stands where only one of its fields can. -/
  | recordUsage (usage : String)
  /-- A part of a statement breaks a rule of its construction. -/
  | invalidStatement (reason : String)
  /-- A conversion goes to a type that the query language does not have. -/
  | castNotSupported (target : String)
  /-- A value is not convertible to a kind. -/
  | conversion (value : Value) (target : String)
  /-- A member has no field. -/
  | unknownField (record member : String)
  /-- An expression or operation has no counterpart in the query language. -/
  | unsupported (message subject : String)
  /-- A contract was broken on the way, and nothing goes on from there. -/
  | misuse (misuse : Misuse)

namespace Cause

/-- The name of the kind of cause. -/
def label : Cause → String
  | plain _ => "Adhoc"
  | fault _ => "Anyhow"
  | indexOutOfRange .. => "ArgumentIndexOutOfRange"
  | recordUsage _ => "InvalidRecordUsage"
  | invalidStatement _ => "InvalidStatement"
  | castNotSupported _ => "TypeCastNotSupported"
  | conversion .. => "TypeConversion"
  | unknownField .. => "UnknownFieldMapping"
  | unsupported .. => "UnsupportedExpression"
  | misuse _ => "Panic"

/-- The cause in words. -/
def message : Cause → String
  | plain message => message
  | fault f => f.message
  | indexOutOfRange index size =>
      "argument index out of range: index " ++ toString index ++ ", row has " ++ toString size ++
        " values"
  | recordUsage usage =>
      "invalid record usage: " ++ usage ++ "; use one of the record\x27s fields instead"
  | invalidStatement reason => "invalid statement: " ++ reason
  | castNotSupported target =>
      "type cast not supported: no query type corresponds to `" ++ target ++ "`"
  | conversion value target => "cannot convert " ++ value.variant ++ " to " ++ target
  | unknownField record member =>
      "unknown field mapping: member `" ++ member ++ "` of `" ++ record ++
        "` is not mapped to a field"
  | unsupported message subject => "unsupported expression: " ++ message ++ "; expr=" ++ subject
  | misuse m => m.message

/-- The cause as diagnostics show it. -/
def outline (cause : Cause) : Outline :=
  .wrap cause.label <|
    match cause with
    | plain message => .fields "AdhocError" [("message", .text message)]
    | fault f => f.outline
    | indexOutOfRange index size =>
        .fields "ArgumentIndexOutOfRange"
          [("index", .word (toString index)), ("len", .word (toString size))]
    | recordUsage usage => .fields "InvalidRecordUsage" [("usage", .text usage)]
    | invalidStatement reason => .fields "InvalidStatement" [("reason", .text reason)]
    | castNotSupported target => .fields "TypeCastNotSupported" [("target", .text target)]
    | conversion value target =>
        .fields "TypeConversionError" [("value", value.outline), ("to", .text target)]
    | unknownField record member =>
        .fields "UnknownFieldMapping" [("record", .text record), ("member", .text member)]
    | unsupported message subject =>
        .fields "UnsupportedExpression" [("message", .text message), ("expr", .text subject)]
    | misuse m => .text m.message

end Cause

/-- An error. -/
inductive Error where
  | raised (cause : Cause)
  /-- `outer` raised on top of `inner`. -/
  | context (outer inner : Error)

namespace Error

/-- The cause for which the error answers. -/
def cause : Error → Cause
  | raised cause => cause
  | context outer _ => outer.cause

/-- The error in words, the outermost first. -/
def message : Error → String
  | raised cause => cause.message
  | context outer inner => outer.message ++ ": " ++ inner.message

/-- The fault behind the error, if it answers for one. -/
def source? (e : Error) : Option Fault :=
  match e.cause with
  | .fault fault => some fault
  | _ => none

/-- The error as diagnostics show it in full. -/
def outline : Error → Outline
  | raised cause => .fields "Error" [("kind", cause.outline), ("cause", .optional none)]
  | context outer inner =>
      .fields "Error"
        [("kind", .wrap "Context" outer.outline), ("cause", .optional (some inner.outline))]

/-- A value that is not convertible. -/
def conversion (value : Value) (target : String) : Error := .raised (.conversion value target)

/-- A text that could not be read. -/
def fault (f : Fault) : Error := .raised (.fault f)

/-- A statement that breaks a rule. -/
def invalidStatement (reason : String) : Error := .raised (.invalidStatement reason)

/-- An unsupported expression or operation. -/
def unsupported (message subject : String) : Error := .raised (.unsupported message subject)

/-- A record in the place of one of its fields. -/
def recordUsage (usage : String) : Error := .raised (.recordUsage usage)

/-- A broken contract. -/
def misuse (m : Misuse) : Error := .raised (.misuse m)

/-- The result of an operation that has a contract, on the way to something else. -/
def ofMisuse {α : Type} (r : Except Misuse α) : Except Error α := r.mapError misuse

theorem ofMisuse_eq_ok {α : Type} {r : Except Misuse α} {a : α} :
    ofMisuse r = .ok a ↔ r = .ok a := by
  cases r with
  | error _ => exact ⟨nofun, nofun⟩
  | ok b => exact ⟨fun h => by cases h; rfl, fun h => by cases h; rfl⟩

/-- Whether the error is a broken contract. -/
def isMisuse (e : Error) : Bool :=
  match e.cause with
  | .misuse _ => true
  | _ => false

end Error

/-- The value of a field that must be there. -/
def Fields.get (fields : Fields) (name : String) : Except Misuse Value :=
  match fields.get? name with
  | some v => .ok v
  | none => .error (.missingField name fields.names)

namespace Value

/-- The value as a size: an integer of 32 bits without sign. -/
def toSize (v : Value) : Except Error Nat :=
  match v.int64? with
  | some n =>
      if 0 ≤ n.toInt && n.toInt < Number.twoTo 32 then .ok n.toInt.toNat
      else .error (.conversion v "u32")
  | none => .error (.conversion v "u32")

/-- The string that the value holds. -/
def toText (v : Value) : Except Error String :=
  match v with
  | string s => .ok s
  | _ => .error (.conversion v "String")

end Value

end Inquiry
