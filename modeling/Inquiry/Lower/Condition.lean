import Inquiry.Lower.Value

/-!
# Conditions

The tests of the query language, over the lowered forms of their operands. The values of an IN test,
the bounds of a BETWEEN and the pattern of a LIKE are always literals.
-/

namespace Inquiry.Lower

open Statement (Relation)

/-- A lowered condition, for either placement of its constants. -/
abbrev LoweredCondition := Placement → Lowering Statement.Condition

/-- A test of an operand for null. -/
def lowerNullTest (whole : Host.Expr) (op : Relation) (operand : Lowered) : LoweredCondition :=
  fun p => do
    let x ← operand p
    match op with
    | .eq => pure (.isNull x true)
    | .ne => pure (.isNull x false)
    | _ => refuse .nullOrder whole

/-- A relation. A comparison with the constant null is a test for null. -/
def lowerRelation (whole : Host.Expr) (op : Relation) (lhs rhs : Argument) : LoweredCondition :=
  fun p =>
    match lhs.1.isNull, rhs.1.isNull with
    | false, false => do
        let l ← lhs.2 p
        let r ← rhs.2 p
        pure (.relation l op r)
    | false, true => lowerNullTest whole op lhs.2 p
    | true, false => lowerNullTest whole op rhs.2 p
    | true, true => refuse .twoNulls whole

/-- A comparison, by an operator that has to be a relation. -/
def lowerComparison (whole : Host.Expr) (op : Host.Operator) (lhs rhs : Argument) :
    LoweredCondition :=
  match op with
  | .relation op => lowerRelation whole op lhs rhs
  | _ => fun _ => refuse .notComparison whole

/-- The literals of a constant list. -/
def valueList (e : Host.Expr) : Except Error (List Statement.Expr) :=
  match e with
  | .constant (.list values) _ =>
      if values.isEmpty then .error (Refusal.emptyValueList.ofExpr e)
      else values.mapM Statement.Expr.ofValue
  | _ => .error (Refusal.dynamicValueList.ofExpr e)

/-- A test for one of several values. -/
def lowerIn (operand : Lowered) (values : Host.Expr) (positive hierarchy : Bool) :
    LoweredCondition := fun p => do
  let x ← operand p
  let vs ← lift (valueList values)
  pure (.inList x vs positive hierarchy)

/-- The escape character of a LIKE test. -/
def escapeOf (whole : Host.Expr) : List Argument → Except Error (Option Char)
  | [] => .ok none
  | [(.constant (.char c) _, _)] => .ok (some c)
  | [_] => .error (Refusal.dynamicEscape.ofExpr whole)
  | _ => .error (Refusal.wrongArguments.ofExpr whole)

/-- A test against a pattern. -/
def lowerLike (whole : Host.Expr) (operand : Lowered) (pattern : Host.Expr)
    (escape : List Argument) (positive : Bool) : LoweredCondition := fun p => do
  let x ← operand p
  match pattern.value?.bind Value.string? with
  | none => refuse .dynamicPattern whole
  | some text => do
      let c ← lift (escapeOf whole escape)
      pure (.like x text c positive)

/-- A test between two bounds. -/
def lowerBetween (operand start stop : Lowered) (positive : Bool) : LoweredCondition := fun p => do
  let x ← operand p
  let a ← start .literals
  let b ← stop .literals
  pure (.between x a b positive)

/-- A call as a test. -/
def lowerPredicate (whole : Host.Expr) (method : Host.Method) (args : List Argument) :
    LoweredCondition := fun p =>
  match method, args with
  | .isIn, [x, values] => lowerIn x.2 values.1 true false p
  | .inHierarchy, [x, values] => lowerIn x.2 values.1 true true p
  | .notIn, [x, values] => lowerIn x.2 values.1 false false p
  | .contains, [values, x] => lowerIn x.2 values.1 true false p
  | .like, x :: pattern :: escape => lowerLike whole x.2 pattern.1 escape true p
  | .notLike, x :: pattern :: escape => lowerLike whole x.2 pattern.1 escape false p
  | .between, [x, start, stop] => lowerBetween x.2 start.2 stop.2 true p
  | .notBetween, [x, start, stop] => lowerBetween x.2 start.2 stop.2 false p
  | _, _ => refuse .wrongArguments whole

/-- A boolean value as a test: it is compared with true. -/
def lowerFlag (whole : Host.Expr) (value : Lowered) : LoweredCondition := fun p =>
  if whole.type.isBool then do
    let l ← value p
    let r ← lowerConstant (.bool true) p
    pure (.relation l .eq r)
  else refuse .notCondition whole

/-- A test of the table to which a value refers. -/
def lowerTypeTest (s : Mapping) (operand : Lowered) (record : Nat) : LoweredCondition := fun p => do
  let x ← operand p
  let table ← lift (tableOf s record)
  pure (.refs x table)

/-- A connective. -/
def lowerLogic (lhs : LoweredCondition) (op : Statement.Connective) (rhs : LoweredCondition) :
    LoweredCondition := fun p => do
  let l ← lhs p
  let r ← rhs p
  pure (.logic l op r)

/-- A negation. -/
def lowerNot (operand : LoweredCondition) : LoweredCondition := fun p => do
  let c ← operand p
  pure (.not c)

end Inquiry.Lower
