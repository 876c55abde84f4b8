import Inquiry.Lower.Refusal
import Inquiry.Request.Basic

/-!
# Plans

The steps of a request must come in the order in which a query performs them: filters, sorts, a
projection, DISTINCT, limits, and at last an aggregation. A plan holds them by their kind. A later sort
replaces the one before it, and of several limits the smallest counts.
-/

namespace Inquiry

open Host (Expr)
open Lower (Refusal)

/-- The steps of a request by their kind. -/
structure Plan where
  filters : List Expr
  order : List (Expr × Statement.Direction)
  projection : Option Expr
  distinct : Bool
  take : Option Nat
  aggregation : Option Aggregation

/-- How far the steps have come. -/
inductive Stage where
  | source
  | filter
  | order
  | select
  | distinct
  | take
  | aggregate
  deriving DecidableEq

/-- The place of a stage in the order of stages. -/
def Stage.rank : Stage → Nat
  | source => 0
  | filter => 1
  | order => 2
  | select => 3
  | distinct => 4
  | take => 5
  | aggregate => 6

namespace Plan

/-- The plan without steps. -/
def empty : Plan := ⟨[], [], none, false, none, none⟩

/-- Why a step may not follow what came before, if it may not. -/
def objection? (stage : Stage) (plan : Plan) (step : Step) : Option Refusal :=
  if stage = .aggregate then some .afterAggregate
  else
    match step with
    | .filter _ => if Stage.filter.rank < stage.rank then some .filterTooLate else none
    | .orderBy _ _ => if Stage.order.rank < stage.rank then some .sortTooLate else none
    | .thenBy _ _ => if stage = .order then none else some .sortMissing
    | .select _ => if Stage.select.rank ≤ stage.rank then some .secondProjection else none
    | .distinct => if Stage.distinct.rank ≤ stage.rank then some .distinctTooLate else none
    | .take _ => none
    | .aggregate aggregation =>
        if stage = .take then some .takeBeforeAggregate
        else if aggregation.func = .count && aggregation.operand.isSome && plan.projection.isSome
        then some .countAfterProjection
        else none

/-- The stage that a step reaches. -/
def stageOf : Step → Stage
  | .filter _ => .filter
  | .orderBy _ _ | .thenBy _ _ => .order
  | .select _ => .select
  | .distinct => .distinct
  | .take _ => .take
  | .aggregate _ => .aggregate

/-- The smaller of a limit and the one before it. -/
def limit (before : Option Nat) (count : Nat) : Nat :=
  match before with
  | some n => min n count
  | none => count

/-- Adds a step to a plan. -/
def add (plan : Plan) : Step → Plan
  | .filter predicate => { plan with filters := plan.filters ++ [predicate] }
  | .orderBy key direction => { plan with order := [(key, direction)] }
  | .thenBy key direction => { plan with order := plan.order ++ [(key, direction)] }
  | .select projection => { plan with projection := some projection }
  | .distinct => { plan with distinct := true }
  | .take count => { plan with take := some (limit plan.take count) }
  | .aggregate aggregation => { plan with aggregation := some aggregation }

/-- Adds steps to a plan that has come to a stage. -/
def extend (stage : Stage) (plan : Plan) : List Step → Except Error Plan
  | [] => .ok plan
  | step :: rest =>
      match objection? stage plan step with
      | some refusal => .error (refusal.error step.outline.line)
      | none => extend (stageOf step) (plan.add step) rest

/-- The plan of the steps of a request. -/
def ofSteps (steps : List Step) : Except Error Plan := extend .source empty steps

/-- All conditions on the items: the filters, and the condition of a count. -/
def conditions (plan : Plan) : List Expr :=
  match plan.aggregation with
  | some ⟨.count, some predicate⟩ => plan.filters ++ [predicate]
  | _ => plan.filters

end Plan

end Inquiry
