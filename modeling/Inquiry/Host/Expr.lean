import Inquiry.Host.Ty
import Inquiry.Statement.Operator
import Inquiry.Value.Basic

/-!
# Host expressions

The expressions in which callers state predicates, projections and sort keys over the input of a
query. They are typed statically, but nothing forces a tree to be well typed: a call may have any
number of arguments, and an operator any operands.
-/

namespace Inquiry.Host

open Statement (Arith Connective Relation Period Function)

/-- An operator with two operands. -/
inductive Operator where
  | relation (op : Relation)
  | logic (op : Connective)
  | arith (op : Arith)
  /-- The left operand unless it is null, else the right one. -/
  | coalesce
  deriving DecidableEq

namespace Operator

def isRelation : Operator → Bool
  | relation _ => true
  | _ => false

def isLogic : Operator → Bool
  | logic _ => true
  | _ => false

def isArith : Operator → Bool
  | arith _ => true
  | _ => false

/-- The connective for a logical operator: what is not AND is OR. -/
def connective : Operator → Connective
  | logic .and => .and
  | _ => .or

@[simp] theorem connective_logic (op : Connective) : (logic op).connective = op := by
  cases op <;> rfl

end Operator

/-- A part of a date. -/
inductive DatePart where
  | year
  | quarter
  | month
  | dayOfYear
  | day
  | week
  | weekDay
  | hour
  | minute
  | second
  deriving DecidableEq

/-- The function that gives a part of a date. -/
def DatePart.function : DatePart → Function
  | .year => .year
  | .quarter => .quarter
  | .month => .month
  | .dayOfYear => .dayOfYear
  | .day => .day
  | .week => .week
  | .weekDay => .weekDay
  | .hour => .hour
  | .minute => .minute
  | .second => .second

/-- A method that has a counterpart in the query language. -/
inductive Method where
  /-- A field of a row by name, as a value of the kind. -/
  | getValue (kind : Option Kind)
  | toNumber
  | toDecimal
  | toText
  | toRecord (id : Nat)
  | substring
  | datePart (part : DatePart)
  | beginOfPeriod (period : Period)
  | endOfPeriod (period : Period)
  | isIn
  | inHierarchy
  | notIn
  | contains
  | like
  | notLike
  | between
  | notBetween
  deriving DecidableEq

/-- A member of a mapped record, by the number of the record and its place there. -/
structure MemberId where
  record : Nat
  index : Nat
  deriving DecidableEq

/-- What a member access reads. -/
inductive MemberRef where
  | field (id : MemberId)
  | datePart (part : DatePart)
  deriving DecidableEq

/-- A host expression. -/
inductive Expr where
  | binary (lhs : Expr) (op : Operator) (rhs : Expr)
  | call (method : Method) (args : List Expr)
  | conditional (test yes no : Expr)
  | constant (value : Value) (type : Ty)
  | convert (operand : Expr) (type : Ty)
  /-- The item that is filtered, projected or sorted. -/
  | input (type : Ty)
  | member (base : Expr) (ref : MemberRef) (type : Ty)
  /-- The construction of a record. -/
  | construct (type : Ty) (members : List (String × Expr))
  | array (item : Ty) (items : List Expr)
  /-- A test whether the operand is the mapped record with that number. -/
  | typeIs (operand : Expr) (record : Nat)
  | not (operand : Expr)
  | negate (operand : Expr)

/-! ## Types -/

mutual
/-- The type of a constant that is given without one. -/
def typeOfValue : Value → Ty
  | .bool _ => .scalar .bool
  | .char _ => .scalar .char
  | .dateTime _ => .scalar .dateTime
  | .decimal _ => .scalar .decimal
  | .single _ => .scalar .single
  | .double _ => .scalar .double
  | .int16 _ => .scalar .int16
  | .int32 _ => .scalar .int32
  | .int64 _ => .scalar .int64
  | .list items => .list (typeOfFirst items)
  | .null => .object
  | .record _ => .anonymous
  | .string _ => .scalar .string
  | .uint8 _ => .scalar .uint8

/-- The type of the first item of a list. -/
def typeOfFirst : List Value → Ty
  | [] => .object
  | v :: _ => typeOfValue v
end

/-- The type of the result of a method. -/
def Method.type : Method → Ty
  | .getValue (some kind) => .scalar kind
  | .getValue none => .object
  | .toNumber | .toDecimal => .scalar .decimal
  | .toText | .substring => .scalar .string
  | .toRecord id => .record id
  | .datePart _ => .scalar .int32
  | .beginOfPeriod _ | .endOfPeriod _ => .scalar .dateTime
  | _ => .bool

/-- The type of the result of an operator with operands of the given types. -/
def Operator.type (op : Operator) (lhs rhs : Ty) : Ty :=
  match op with
  | .relation _ | .logic _ => .bool
  | .arith _ => lhs
  | .coalesce => if lhs.isObject then rhs else lhs

namespace Expr

/-- The static type of an expression. -/
def type : Expr → Ty
  | binary lhs op rhs => op.type lhs.type rhs.type
  | call method _ => method.type
  | conditional _ yes _ => yes.type
  | constant _ type => type
  | convert _ type => type
  | input type => type
  | member _ _ type => type
  | construct type _ => type
  | array item _ => .list item
  | typeIs _ _ => .bool
  | not _ => .bool
  | negate operand => operand.type

/-- A constant of the type of its value. -/
def ofValue (v : Value) : Expr := .constant v (typeOfValue v)

/-- A field of a row by name. -/
def get (of : Expr) (name : String) (kind : Option Kind) : Expr :=
  .call (.getValue kind) [of, ofValue (.string name)]

def isConstant : Expr → Bool
  | constant .. => true
  | _ => false

/-- The value of a constant. -/
def value? : Expr → Option Value
  | constant v _ => some v
  | _ => none

def isNull : Expr → Bool
  | constant .null _ => true
  | _ => false

def isInput : Expr → Bool
  | input _ => true
  | _ => false

/-- The truth value of a constant. -/
def bool? : Expr → Option Bool
  | constant (.bool b) _ => some b
  | _ => none

end Expr

end Inquiry.Host
