import Inquiry.Value.Convert

/-!
# Reading rows

A reader puts the raw values of a row into the form that a projection asked for: the row itself, one
value, or a record with a field for each column. Values are converted to the kinds of the columns.
-/

namespace Inquiry

/-- How one value of a row is read. -/
structure Column where
  /-- The name of the field, in a record. -/
  name : Option String
  /-- The place of the value in the row. -/
  position : Nat
  /-- The kind to which the value is converted, if any. -/
  kind : Option Kind
  deriving DecidableEq

/-- How an item is read from a row. -/
inductive Reader where
  | raw
  | scalar (column : Column)
  | record (columns : List Column)
  deriving DecidableEq

/-- The value of a column in a row. -/
def Column.read (c : Column) (row : List Value) : Except Error Value :=
  match row[c.position]? with
  | none => .error (.raised (.indexOutOfRange c.position row.length))
  | some v =>
      match c.kind with
      | some kind => v.convert kind
      | none => .ok v

/-- Reads columns one after the other into a record. -/
def readColumns (row : List Value) : List Column → Fields → Except Error Fields
  | [], fields => .ok fields
  | c :: rest, fields => do
      let v ← c.read row
      readColumns row rest (Fields.set (c.name.getD "") v fields)

/-- Reads an item from a row. -/
def Reader.read (r : Reader) (row : List Value) : Except Error Value :=
  match r with
  | raw => .ok (.list row)
  | scalar column => column.read row
  | record columns => (readColumns row columns []).map .record

end Inquiry
