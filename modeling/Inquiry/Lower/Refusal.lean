import Inquiry.Error
import Inquiry.Host.Outline

/-!
# Refusals

The reasons for which an expression or an operation of a request has no counterpart in the query
language.
-/

namespace Inquiry.Lower

/-- Why something has no counterpart in the query language. -/
inductive Refusal where
  -- values
  | arrayAsValue
  | conditionAsValue
  | dynamicFieldName
  | dynamicSize
  | memberOfNonRecord
  | notAsValue
  | predicateAsValue
  | typeTestAsValue
  | unmappedRecord
  | wrongArguments
  -- conditions
  | constantCondition
  | dynamicEscape
  | dynamicPattern
  | dynamicValueList
  | emptyValueList
  | notComparison
  | notCondition
  | nullOrder
  | twoNulls
  -- steps of a request
  | afterAggregate
  | filterTooLate
  | sortTooLate
  | sortMissing
  | secondProjection
  | distinctTooLate
  | takeBeforeAggregate
  | countAfterProjection
  -- statements of a request
  | falseFilter
  | distinctCountOperand
  | distinctAggregate
  | selectorAfterProjection
  | aggregateOperand
  | severalColumns
  deriving DecidableEq

namespace Refusal

/-- The reason in words. -/
def message : Refusal → String
  | arrayAsValue => "an array is only accepted as the value list of an IN test"
  | conditionAsValue => "condition used as a value"
  | dynamicFieldName => "field name must be a constant string"
  | dynamicSize => "size argument must be a constant"
  | memberOfNonRecord => "members can only be read from records"
  | notAsValue => "logical NOT used as a value"
  | predicateAsValue => "predicate used as a value"
  | typeTestAsValue => "type test used as a value"
  | unmappedRecord => "record type is not mapped"
  | wrongArguments => "wrong number of arguments"
  | constantCondition => "constant used as a condition"
  | dynamicEscape => "LIKE escape must be a constant character"
  | dynamicPattern => "LIKE pattern must be a constant string"
  | dynamicValueList => "IN values must be a constant list"
  | emptyValueList => "IN value list is empty"
  | notComparison => "not a comparison"
  | notCondition => "expression is not a condition"
  | nullOrder => "null can only be tested for equality"
  | twoNulls => "comparison of two nulls"
  | afterAggregate => "no operation may follow an aggregate"
  | filterTooLate => "filter after sorting or projection"
  | sortTooLate => "sort after projection or take"
  | sortMissing => "then-by without a preceding order-by"
  | secondProjection => "only one projection is supported"
  | distinctTooLate => "distinct after distinct or take"
  | takeBeforeAggregate => "take before an aggregate"
  | countAfterProjection => "counting predicate after a projection"
  | falseFilter => "filter is always false"
  | distinctCountOperand => "COUNT(DISTINCT) requires a single-column projection"
  | distinctAggregate => "only COUNT supports DISTINCT"
  | selectorAfterProjection => "aggregate selector after a projection"
  | aggregateOperand => "aggregate requires a selector or a single-column projection"
  | severalColumns => "aggregate over a projection with more than one column"

/-- The error for a refused subject. -/
def error (r : Refusal) (subject : String) : Error := .unsupported r.message subject

/-- The error for a refused expression. -/
def ofExpr (r : Refusal) (e : Host.Expr) : Error := r.error e.text

end Refusal

end Inquiry.Lower
