/-!
# Kinds of scalar values

The kinds to which a column value can be converted.
-/

namespace Inquiry

/-- A kind of scalar value. -/
inductive Kind where
  | string
  | int16
  | int32
  | int64
  | uint8
  | single
  | double
  | decimal
  | bool
  | dateTime
  | char
  deriving DecidableEq

namespace Kind

/-- The name of the kind. -/
def name : Kind → String
  | string => "String"
  | int16 => "I16"
  | int32 => "I32"
  | int64 => "I64"
  | uint8 => "U8"
  | single => "F32"
  | double => "F64"
  | decimal => "Decimal"
  | bool => "Bool"
  | dateTime => "DateTime"
  | char => "Char"

/-- All kinds. -/
def all : List Kind :=
  [string, int16, int32, int64, uint8, single, double, decimal, bool, dateTime, char]

end Kind

end Inquiry
