import Inquiry.Lower.Expr
import Inquiry.Reader
import Inquiry.Request.Plan

/-!
# Lowering of requests

A request becomes one query. Its filters are joined by AND, and constants in them become parameters;
projections, sort keys and operands of aggregates have literals. A request for items comes with a
reader for the rows of the query; a request for one value does not.
-/

namespace Inquiry.Lower

open Host (Expr)
open Statement (Select Query SortKey)

/-! ## Projections -/

/-- The columns of a projection and the reader for their rows. -/
structure Projection where
  columns : List Statement.Expr
  reader : Reader

/-- The columns of the members of a record, from a position on. -/
def lowerMembers (s : Mapping) (p : Placement) :
    Nat → List (String × Expr) → Lowering (List Statement.Expr × List Column)
  | _, [] => pure ([], [])
  | position, (name, e) :: rest => do
      if e.type.isRecord then
        lift (.error (.recordUsage ("member `" ++ name ++ "` of the projection is a whole record")))
      let column ← lowerValue s e p
      let others ← lowerMembers s p (position + 1) rest
      pure (column :: others.1, ⟨some name, position, e.type.kind?⟩ :: others.2)

/-- Lowers a projection: a record has a column for each member, any other value one column. -/
def lowerProjection (s : Mapping) (e : Expr) (p : Placement) : Lowering Projection :=
  match e with
  | .construct _ members =>
      if members.isEmpty then lift (.error (.invalidStatement "projection has no members"))
      else do
        let columns ← lowerMembers s p 0 members
        pure ⟨columns.1, .record columns.2⟩
  | _ =>
      if e.type.isRecord then
        lift (.error (.recordUsage "a projection cannot return a whole record"))
      else do
        let column ← lowerValue s e p
        pure ⟨[column], .scalar ⟨none, 0, e.type.kind?⟩⟩

/-- A projection, folded first, with literals for its constants. -/
def projection (s : Mapping) (e : Expr) : Lowering Projection := do
  let folded ← lift e.fold
  lowerProjection s folded .literals

/-! ## Filters -/

/-- The conditions of filters. A filter that is always true is left out. -/
def lowerFilters (s : Mapping) : List Expr → Lowering (List Statement.Condition)
  | [] => pure []
  | e :: rest => do
      let folded ← lift e.fold
      match folded.bool? with
      | some true => lowerFilters s rest
      | some false => refuse .falseFilter folded
      | none => do
          let c ← lowerCondition s folded .parameters
          let others ← lowerFilters s rest
          pure (c :: others)

/-- The condition of several filters together. -/
def filter (s : Mapping) (filters : List Expr) : Lowering (Option Statement.Condition) := do
  let conditions ← lowerFilters s filters
  pure (Statement.Condition.all? conditions)

/-! ## Queries -/

/-- The name of a source. -/
def sourceName (s : Mapping) : Source → Except Error String
  | .table name => .ok name
  | .record id => tableOf s id

/-- Lowers sort keys one after the other. -/
def sortKeys (s : Mapping) : List (Expr × Statement.Direction) → Lowering (List SortKey)
  | [] => pure []
  | (e, direction) :: rest => do
      let key ← sortKey s e direction
      let others ← sortKeys s rest
      pure (key :: others)

/-- The order of a plan, if it sorts at all. -/
def orderOf (s : Mapping) (plan : Plan) : Lowering (Option (List SortKey)) :=
  if plan.order.isEmpty then pure none
  else do
    let keys ← sortKeys s plan.order
    let checked ← lift (SortKey.check keys)
    pure (some checked)

/-- The columns of a plan and the reader for their rows. -/
def columnsOf (s : Mapping) (plan : Plan) : Lowering (Select × Reader) :=
  match plan.projection with
  | none => pure (Select.all, .raw)
  | some e => do
      let projected ← projection s e
      let select ← lift (Select.ofColumns projected.columns)
      pure (select, projected.reader)

/-- The query of a request for items, without source and filter. -/
def lowerItems (s : Mapping) (plan : Plan) : Lowering (Query × Option Reader) := do
  let (select, reader) ← columnsOf s plan
  let order ← orderOf s plan
  pure (⟨{ select with distinct := plan.distinct, top := plan.take }, none, none, order⟩,
    some reader)

/-- The only column of a projection. -/
def onlyColumn (s : Mapping) (e : Expr) : Lowering Statement.Expr := do
  let folded ← lift e.fold
  match folded with
  | .construct _ [(_, member)] => lowerValue s member .literals
  | .construct _ _ => refuse .severalColumns folded
  | _ => lowerValue s folded .literals

/-- Fails for an aggregation. -/
def refuseAggregation {α : Type} (r : Refusal) (a : Aggregation) : Lowering α :=
  lift (.error (r.error a.outline.line))

/-- The column of a count. -/
def countColumn (s : Mapping) (plan : Plan) (a : Aggregation) : Lowering Statement.Expr :=
  if plan.distinct then
    match plan.projection with
    | none => refuseAggregation .distinctCountOperand a
    | some e => do
        let column ← onlyColumn s e
        pure (.count column true)
  else pure (.countRows false)

/-- The operand of an aggregate. -/
def aggregateOperand (s : Mapping) (plan : Plan) (a : Aggregation) : Lowering Statement.Expr :=
  match a.operand, plan.projection with
  | some selector, some _ => refuse .selectorAfterProjection selector
  | some selector, none => value s selector
  | none, some e => onlyColumn s e
  | none, none => refuseAggregation .aggregateOperand a

/-- The column of an aggregation. -/
def aggregateColumn (s : Mapping) (plan : Plan) (a : Aggregation) : Lowering Statement.Expr :=
  if a.func = .count then countColumn s plan a
  else if plan.distinct then refuseAggregation .distinctAggregate a
  else do
    let operand ← aggregateOperand s plan a
    let func ← lift (Error.ofMisuse a.func.aggregate)
    pure (.aggregate func operand)

/-- The query of a plan, without source and filter. -/
def lowerPlan (s : Mapping) (plan : Plan) : Lowering (Query × Option Reader) :=
  match plan.aggregation with
  | none => lowerItems s plan
  | some a => do
      let column ← aggregateColumn s plan a
      pure (⟨Select.single column, none, none, none⟩, none)

/-- The query of a request and the reader for its rows. -/
def request (s : Mapping) (r : Request) : Lowering (Query × Option Reader) := do
  let plan ← lift (Plan.ofSteps r.steps)
  let source ← lift (sourceName s r.source)
  let condition ← filter s plan.conditions
  let (query, reader) ← lowerPlan s plan
  pure ({ query with source := some source, filter := condition }, reader)

end Inquiry.Lower
