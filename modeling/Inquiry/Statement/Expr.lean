import Inquiry.Statement.Literal
import Inquiry.Statement.Name

/-!
# Expressions and conditions

The value expressions and conditions of the query language. Conditions occur in expressions as the
tests of a CASE, and expressions are the operands of conditions.
-/

namespace Inquiry.Statement

/-- The type that a CAST names. -/
inductive CastType where
  | boolean
  | date
  | number
  | numberOf (length : Nat)
  | numberWith (length precision : Nat)
  | string
  | stringOf (length : Nat)
  | table (name : String)
  deriving DecidableEq

/-- Whether the type is a reference to the rows of a table. -/
def CastType.isTable : CastType → Bool
  | .table _ => true
  | _ => false

mutual

/-- A value expression. -/
inductive Expr where
  | aggregate (func : Aggregate) (operand : Expr)
  /-- All columns of the source. -/
  | allColumns
  | arith (op : Arith) (lhs rhs : Expr)
  | case (branches : List (Condition × Expr)) (default : Expr)
  | cast (operand : Expr) (type : CastType)
  /-- Several fields of one table. -/
  | columnGroup (table : Expr) (fields : List Name)
  | count (operand : Expr) (distinct : Bool)
  /-- The number of rows. -/
  | countRows (distinct : Bool)
  /-- The table that a field without qualification belongs to. -/
  | defaultTable
  | field (table : Expr) (name : Name)
  | call (func : Function) (args : List Expr)
  | literal (l : Literal)
  | negate (operand : Expr)
  | param (name : Name)

/-- A condition. -/
inductive Condition where
  | between (operand start stop : Expr) (positive : Bool)
  | inList (operand : Expr) (values : List Expr) (positive hierarchy : Bool)
  | isNull (operand : Expr) (positive : Bool)
  | like (operand : Expr) (pattern : String) (escape : Option Char) (positive : Bool)
  | logic (lhs : Condition) (op : Connective) (rhs : Condition)
  | not (operand : Condition)
  /-- The operand refers to a row of the table. -/
  | refs (operand : Expr) (table : String)
  | relation (lhs : Expr) (op : Relation) (rhs : Expr)

end

namespace Expr

/-- A CASE, which has at least one branch. -/
def caseOf (branches : List (Condition × Expr)) (default : Expr) : Except Error Expr :=
  if branches.isEmpty then .error (.invalidStatement "CASE requires at least one branch")
  else .ok (.case branches default)

@[simp] theorem caseOf_cons (branch : Condition × Expr) (rest : List (Condition × Expr))
    (default : Expr) : caseOf (branch :: rest) default = .ok (.case (branch :: rest) default) := rfl

/-- A function applied to the number of arguments that it has. -/
def callOf (func : Function) (args : List Expr) : Except Misuse Expr :=
  if args.length = func.arity then .ok (.call func args)
  else .error (.arity func.text func.arity args.length)

theorem callOf_eq_ok {func : Function} {args : List Expr} {e : Expr} :
    callOf func args = .ok e ↔ args.length = func.arity ∧ e = .call func args := by
  rw [callOf]
  split
  · next h => exact ⟨fun he => by cases he; exact ⟨h, rfl⟩, fun he => by rw [he.2]⟩
  · next h => exact ⟨nofun, fun he => absurd he.1 h⟩

/-- The literal of a value as an expression. -/
def ofValue (v : Value) : Except Error Expr := (Literal.ofValue v).map .literal

def isAllColumns : Expr → Bool
  | .allColumns => true
  | _ => false

def isDefaultTable : Expr → Bool
  | .defaultTable => true
  | _ => false

def isLiteral : Expr → Bool
  | .literal _ => true
  | _ => false

def isParam : Expr → Bool
  | .param _ => true
  | _ => false

/-- The name of a field. -/
def fieldName? : Expr → Option Name
  | .field _ name => some name
  | _ => none

/-- Whether the expression is written with blanks outside parentheses, so that it needs parentheses
as an operand. -/
def hasSpaces : Expr → Bool
  | .arith .. => true
  | _ => false

end Expr

namespace Condition

/-- Whether the condition is a negation. -/
def isNot : Condition → Bool
  | .not _ => true
  | _ => false

/-- Whether the condition is written with blanks outside parentheses. -/
def hasSpaces (_ : Condition) : Bool := true

/-- The conjunction of conditions, nested to the left; there is none of no conditions. -/
def all? : List Condition → Option Condition
  | [] => none
  | c :: rest => some (rest.foldl (fun acc next => .logic acc .and next) c)

end Condition

end Inquiry.Statement
