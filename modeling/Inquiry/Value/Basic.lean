import Inquiry.Calendar.Text
import Inquiry.Number.Binary.Shortest
import Inquiry.Number.Decimal.Basic
import Inquiry.Outline

/-!
# Values

A value is a constant of an expression, the value of a parameter, or what a column of a row holds. A
record is a list of named values in the order in which the names were first set; each name occurs
once.
-/

namespace Inquiry

/-- A constant, a parameter value or a column value. -/
inductive Value where
  | bool (b : Bool)
  | char (c : Char)
  | dateTime (t : DateTime)
  | decimal (d : Decimal)
  | single (x : Single)
  | double (x : Double)
  | int16 (n : Int16)
  | int32 (n : Int32)
  | int64 (n : Int64)
  | list (items : List Value)
  | null
  | record (fields : List (String × Value))
  | string (s : String)
  | uint8 (n : UInt8)

/-- The fields of a record, in order. -/
abbrev Fields := List (String × Value)

namespace Fields

/-- Sets a field. A new name goes to the end; a known name keeps its place. -/
def set (name : String) (v : Value) : Fields → Fields
  | [] => [(name, v)]
  | (n, w) :: rest => if n = name then (n, v) :: rest else (n, w) :: set name v rest

/-- The value of a field. -/
def get? (fields : Fields) (name : String) : Option Value :=
  fields.lookup name

/-- The names of the fields, in order. -/
def names (fields : Fields) : List String :=
  fields.map (·.1)

/-- The record in which the given fields were set one after the other. -/
def ofList (entries : List (String × Value)) : Fields :=
  entries.foldl (fun fields entry => set entry.1 entry.2 fields) []

end Fields

namespace Value

/-! ## Kinds of values -/

/-- The name of the kind of value. -/
def variant : Value → String
  | bool _ => "Bool"
  | char _ => "Char"
  | dateTime _ => "DateTime"
  | decimal _ => "Decimal"
  | single _ => "F32"
  | double _ => "F64"
  | int16 _ => "I16"
  | int32 _ => "I32"
  | int64 _ => "I64"
  | list _ => "List"
  | null => "Null"
  | record _ => "Record"
  | string _ => "String"
  | uint8 _ => "U8"

def isNull : Value → Bool
  | null => true
  | _ => false

def isList : Value → Bool
  | list _ => true
  | _ => false

def isRecord : Value → Bool
  | record _ => true
  | _ => false

/-- Whether the value is an integer, a floating-point number or a decimal. -/
def isNumeric : Value → Bool
  | int16 _ | int32 _ | int64 _ | uint8 _ | single _ | double _ | decimal _ => true
  | _ => false

def bool? : Value → Option Bool
  | bool b => some b
  | _ => none

def string? : Value → Option String
  | string s => some s
  | _ => none

def list? : Value → Option (List Value)
  | list items => some items
  | _ => none

def fields? : Value → Option Fields
  | record fields => some fields
  | _ => none

/-- The integer that the value holds. -/
def int64? : Value → Option Int64
  | int16 n => some n.toInt64
  | int32 n => some n.toInt64
  | int64 n => some n
  | uint8 n => some (Int64.ofInt n.toNat)
  | _ => none

/-! ## Sameness

Two values are the same when they are of one kind and hold the same. Floating-point numbers are
compared bit by bit, so that a value is always the same as itself; decimals are compared as numbers;
the fields of records are compared in order. -/

mutual
/-- Whether two values are the same. -/
def same : Value → Value → Bool
  | bool a, bool b => a == b
  | char a, char b => a == b
  | dateTime a, dateTime b => a == b
  | decimal a, decimal b => a.same b
  | single a, single b => a == b
  | double a, double b => a == b
  | int16 a, int16 b => a == b
  | int32 a, int32 b => a == b
  | int64 a, int64 b => a == b
  | list as, list bs => sameItems as bs
  | null, null => true
  | record as, record bs => sameFields as bs
  | string a, string b => a == b
  | uint8 a, uint8 b => a == b
  | _, _ => false

def sameItems : List Value → List Value → Bool
  | [], [] => true
  | a :: as, b :: bs => same a b && sameItems as bs
  | _, _ => false

def sameFields : Fields → Fields → Bool
  | [], [] => true
  | (m, a) :: as, (n, b) :: bs => m == n && same a b && sameFields as bs
  | _, _ => false
end

/-! ## Outlines -/

mutual
/-- The value as diagnostics show it. -/
def outline : Value → Outline
  | bool b => .wrap "Bool" (.word (if b then "true" else "false"))
  | char c => .wrap "Char" (.word (Text.escapeSingle c))
  | dateTime t => .wrap "DateTime" (.word t.shown)
  | decimal d => .wrap "Decimal" (.word d.text)
  | single x => .wrap "F32" (.word x.shown)
  | double x => .wrap "F64" (.word x.shown)
  | int16 n => .wrap "I16" (.word (toString n.toInt))
  | int32 n => .wrap "I32" (.word (toString n.toInt))
  | int64 n => .wrap "I64" (.word (toString n.toInt))
  | list items => .wrap "List" (.items (itemOutlines items))
  | null => .word "Null"
  | record fields =>
      .wrap "Record" (.fields "ValueRecord" [("fields", .table (fieldOutlines fields))])
  | string s => .wrap "String" (.text s)
  | uint8 n => .wrap "U8" (.word (toString n.toNat))

def itemOutlines : List Value → List Outline
  | [] => []
  | v :: rest => outline v :: itemOutlines rest

def fieldOutlines : Fields → List (String × Outline)
  | [] => []
  | (name, v) :: rest => (name, outline v) :: fieldOutlines rest
end

end Value

end Inquiry
