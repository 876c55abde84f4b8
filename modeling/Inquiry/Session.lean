import Inquiry.Lower.Request

/-!
# Sessions

A session lowers expressions and requests one after the other on one list of parameters, so that the
results can be put together into one statement. A step that fails keeps the parameters that it
registered.
-/

namespace Inquiry.Session

open Lower (Lowering Parameters Projection)

/-- A step of a session. -/
inductive Step where
  /-- Registers a value. -/
  | add (v : Value)
  | value (e : Host.Expr)
  | condition (e : Host.Expr)
  | projection (e : Host.Expr)
  | sortKey (e : Host.Expr) (direction : Statement.Direction)
  | request (r : Request)

/-- What a step gives. -/
inductive Outcome where
  | name (name : String)
  | value (e : Statement.Expr)
  | condition (c : Statement.Condition)
  | projection (p : Projection)
  | sortKey (k : Statement.SortKey)
  | query (q : Statement.Query) (reader : Option Reader)

/-- Performs a step. -/
def perform (s : Mapping) : Step → Lowering Outcome
  | .add v => Outcome.name <$> Lower.register v
  | .value e => Outcome.value <$> Lower.value s e
  | .condition e => Outcome.condition <$> Lower.condition s e
  | .projection e => Outcome.projection <$> Lower.projection s e
  | .sortKey e direction => Outcome.sortKey <$> Lower.sortKey s e direction
  | .request r => (fun q => Outcome.query q.1 q.2) <$> Lower.request s r

/-- The outcomes of the steps of a session, each with the parameters after it. -/
def run (s : Mapping) : Parameters → List Step → List (Except Error Outcome × Parameters)
  | _, [] => []
  | ps, step :: rest =>
      let after := perform s step ps
      after :: run s after.2 rest

end Inquiry.Session
