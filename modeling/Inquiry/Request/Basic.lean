import Inquiry.Error
import Inquiry.Host.Outline

/-!
# Requests

A request describes a query: a source, and steps that filter, sort, project, limit or summarise its
items, in the order in which the caller asked for them.
-/

namespace Inquiry

open Host (Expr)

/-- Where the items of a request come from. -/
inductive Source where
  | table (name : String)
  /-- A mapped record, by its number. -/
  | record (id : Nat)
  deriving DecidableEq

/-- What a summary computes. -/
inductive Summary where
  | count
  | total (func : Statement.Aggregate)
  deriving DecidableEq

/-- The last step of a request that asks for one value. A count may have a condition, any other
summary an operand. -/
structure Aggregation where
  func : Summary
  operand : Option Expr

/-- A step of a request. -/
inductive Step where
  | filter (predicate : Expr)
  | orderBy (key : Expr) (direction : Statement.Direction)
  | thenBy (key : Expr) (direction : Statement.Direction)
  | select (projection : Expr)
  | distinct
  | take (count : Nat)
  | aggregate (aggregation : Aggregation)

/-- The description of a query. -/
structure Request where
  source : Source
  steps : List Step

/-- The item to which the expressions of a request refer. -/
def Source.input : Source → Expr
  | table _ => .input .row
  | record id => .input (.record id)

/-! ## Outlines -/

/-- The aggregate for a summary; a count is not one. -/
def Summary.aggregate : Summary → Except Misuse Statement.Aggregate
  | count => .error .countAggregate
  | total func => .ok func

/-- The summary by name. -/
def Summary.label : Summary → String
  | count => "Count"
  | total func => func.label

/-- All of them. -/
def Summary.all : List Summary := .count :: Statement.Aggregate.all.map .total

/-- An aggregation as diagnostics show it. -/
def Aggregation.outline (a : Aggregation) : Outline :=
  .fields "Aggregate"
    [("func", .word a.func.label), ("arg", .optional (a.operand.map Expr.outline))]

/-- A step as diagnostics show it. -/
def Step.outline : Step → Outline
  | filter predicate => .wrap "Filter" predicate.outline
  | orderBy key direction => .node "OrderBy" [key.outline, .word (direction.label)]
  | thenBy key direction => .node "ThenBy" [key.outline, .word (direction.label)]
  | select projection => .wrap "Select" projection.outline
  | distinct => .word "Distinct"
  | take count => .wrap "Take" (.word (toString count))
  | aggregate aggregation => .wrap "Aggregate" aggregation.outline

end Inquiry
