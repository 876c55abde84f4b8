import Inquiry.Host.Fold
import Inquiry.Lower.Condition
import Inquiry.Statement.Query

/-!
# Lowering of expressions

`lowerValue` lowers an expression in a value position, `lowerCondition` one that stands as a
condition. An expression that is neither a comparison, a connective nor a predicate is lowered as a
value and tested.
-/

namespace Inquiry.Lower

open Host (Expr)

mutual

/-- Lowers an expression in a value position. -/
def lowerValue (s : Mapping) : Expr → Lowered
  | .binary lhs op rhs =>
      lowerBinary (.binary lhs op rhs) op (lowerValue s lhs) (lowerValue s rhs)
  | .call method args => lowerCall s (.call method args) method (lowerArguments s args)
  | .conditional test yes no =>
      lowerConditional (lowerCondition s test) (lowerValue s yes) (no, lowerValue s no)
  | .constant v _ => lowerConstant v
  | .convert operand type => lowerConvert s operand type (lowerValue s operand)
  | .input _ => lowerRecord "the query input is a whole record"
  | .member base ref _ => lowerMember s base ref (lowerValue s base)
  | .construct _ _ => lowerRecord "a constructed record cannot be used as a value"
  | .array item items => fun _ => refuse .arrayAsValue (.array item items)
  | .typeIs operand record => fun _ => refuse .typeTestAsValue (.typeIs operand record)
  | .not operand => fun _ => refuse .notAsValue (.not operand)
  | .negate operand => lowerNegate (lowerValue s operand)

/-- Lowers an expression that stands as a condition. -/
def lowerCondition (s : Mapping) : Expr → LoweredCondition
  | .binary lhs op rhs =>
      if op.isRelation then
        lowerComparison (.binary lhs op rhs) op (lhs, lowerValue s lhs) (rhs, lowerValue s rhs)
      else if op.isLogic then
        lowerLogic (lowerCondition s lhs) op.connective (lowerCondition s rhs)
      else
        lowerFlag (.binary lhs op rhs)
          (lowerBinary (.binary lhs op rhs) op (lowerValue s lhs) (lowerValue s rhs))
  | .call method args =>
      if isPredicate method then
        lowerPredicate (.call method args) method (lowerArguments s args)
      else
        lowerFlag (.call method args)
          (lowerCall s (.call method args) method (lowerArguments s args))
  | .conditional test yes no =>
      lowerFlag (.conditional test yes no)
        (lowerConditional (lowerCondition s test) (lowerValue s yes) (no, lowerValue s no))
  | .constant v type =>
      if v.bool?.isSome then fun _ => refuse .constantCondition (.constant v type)
      else lowerFlag (.constant v type) (lowerConstant v)
  | .convert operand type =>
      lowerFlag (.convert operand type) (lowerConvert s operand type (lowerValue s operand))
  | .input type =>
      lowerFlag (.input type) (lowerRecord "the query input is a whole record")
  | .member base ref type =>
      lowerFlag (.member base ref type) (lowerMember s base ref (lowerValue s base))
  | .construct type members =>
      lowerFlag (.construct type members)
        (lowerRecord "a constructed record cannot be used as a value")
  | .array item items =>
      lowerFlag (.array item items) (fun _ => refuse .arrayAsValue (.array item items))
  | .typeIs operand record => lowerTypeTest s (lowerValue s operand) record
  | .not operand => lowerNot (lowerCondition s operand)
  | .negate operand =>
      lowerFlag (.negate operand) (lowerNegate (lowerValue s operand))

/-- The arguments of a call with their lowered forms. -/
def lowerArguments (s : Mapping) : List Expr → List Argument
  | [] => []
  | e :: rest => (e, lowerValue s e) :: lowerArguments s rest

end

section

variable (s : Mapping) (lhs rhs : Expr)

theorem lowerCondition_relation (op : Statement.Relation) :
    lowerCondition s (.binary lhs (.relation op) rhs) =
      lowerRelation (.binary lhs (.relation op) rhs) op (lhs, lowerValue s lhs)
        (rhs, lowerValue s rhs) := by
  rw [lowerCondition]
  rfl

theorem lowerCondition_logic (op : Statement.Connective) :
    lowerCondition s (.binary lhs (.logic op) rhs) =
      lowerLogic (lowerCondition s lhs) op (lowerCondition s rhs) := by
  rw [lowerCondition, Host.Operator.connective_logic]
  rfl

theorem lowerCondition_arith (op : Statement.Arith) :
    lowerCondition s (.binary lhs (.arith op) rhs) =
      lowerFlag (.binary lhs (.arith op) rhs)
        (lowerBinary (.binary lhs (.arith op) rhs) (.arith op) (lowerValue s lhs)
          (lowerValue s rhs)) := by
  rw [lowerCondition]
  rfl

theorem lowerCondition_coalesce :
    lowerCondition s (.binary lhs .coalesce rhs) =
      lowerFlag (.binary lhs .coalesce rhs)
        (lowerBinary (.binary lhs .coalesce rhs) .coalesce (lowerValue s lhs)
          (lowerValue s rhs)) := by
  rw [lowerCondition]
  rfl

end

/-- A value expression, folded first, with literals for its constants. -/
def value (s : Mapping) (e : Expr) : Lowering Statement.Expr := do
  let folded ← lift e.fold
  lowerValue s folded .literals

/-- A condition, folded first, with parameters for its constants. -/
def condition (s : Mapping) (e : Expr) : Lowering Statement.Condition := do
  let folded ← lift e.fold
  lowerCondition s folded .parameters

/-- A sort key, folded first, with literals for its constants. -/
def sortKey (s : Mapping) (e : Expr) (direction : Statement.Direction) :
    Lowering Statement.SortKey := do
  let key ← value s e
  pure ⟨key, direction⟩

end Inquiry.Lower
