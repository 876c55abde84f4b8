import Inquiry.Lower.Parameters
import Inquiry.Lower.Refusal
import Inquiry.Schema
import Inquiry.Statement.Expr

/-!
# Lowering

Lowering turns host expressions into statements. It registers parameters on the way; those that were
registered before a failure stay registered. Constants become parameters or literals, depending on
where the expression stands.
-/

namespace Inquiry.Lower

/-- A computation that registers parameters and may fail. -/
abbrev Lowering (α : Type) := ExceptT Error (StateM Parameters) α

/-- What constants become. -/
inductive Placement where
  | parameters
  | literals
  deriving DecidableEq

/-- A lowered value expression, for either placement of its constants. -/
abbrev Lowered := Placement → Lowering Statement.Expr

/-- A result that registers nothing. -/
def lift {α : Type} (r : Except Error α) : Lowering α := fun ps => (r, ps)

/-- Fails for an expression. -/
def refuse {α : Type} (r : Refusal) (e : Host.Expr) : Lowering α := lift (.error (r.ofExpr e))

/-- Registers a value and gives its name. -/
def register (v : Value) : Lowering String := fun ps => (.ok ps.nextName, ps.add v)

/-- A function applied to lowered arguments. -/
def call (func : Statement.Function) (args : List Statement.Expr) : Lowering Statement.Expr :=
  lift (Error.ofMisuse (Statement.Expr.callOf func args))

/-- A constant in a value position. Null is always a literal. -/
def lowerConstant (v : Value) : Lowered := fun placement =>
  if v.isRecord then lift (.error (.recordUsage "a record constant cannot be used as a value"))
  else if v.isNull then pure (.literal .null)
  else
    match placement with
    | .parameters => do
        let name ← register v
        pure (.param ⟨name⟩)
    | .literals => lift (Statement.Expr.ofValue v)

/-! ## Names of the mapping -/

/-- The table of a record. -/
def tableOf (s : Mapping) (id : Nat) : Except Error String :=
  match s.table? id with
  | some table => .ok table
  | none => .error (Refusal.unmappedRecord.error (Host.recordText id))

/-- The field of a member. -/
def fieldOf (s : Mapping) (id : Host.MemberId) : Except Error String :=
  match s.record? id.record with
  | none =>
      .error (.raised (.unknownField (Host.recordText id.record) ("#" ++ toString id.index)))
  | some r =>
      match r.member? id with
      | none => .error (.raised (.unknownField r.name ("#" ++ toString id.index)))
      | some m =>
          match m.field with
          | some field => .ok field
          | none => .error (.raised (.unknownField r.name m.name))

/-- The name of a type in an error: declared records go by their names. -/
def typeName (s : Mapping) (t : Host.Ty) : String :=
  match t with
  | .record id =>
      match s.record? id with
      | some r => r.name
      | none => Host.recordText id
  | _ => t.outline.line

/-- A type without a counterpart in the query language. -/
def castFailure (s : Mapping) (t : Host.Ty) : Error := .raised (.castNotSupported (typeName s t))

/-- The type that a conversion from an object names. -/
def castType (s : Mapping) (t : Host.Ty) : Except Error Statement.CastType :=
  match t with
  | .scalar .bool => .ok .boolean
  | .scalar .dateTime => .ok .date
  | .scalar .string => .ok .string
  | .record id => (tableOf s id).map .table
  | _ => if t.isNumeric then .ok .number else .error (castFailure s t)

end Inquiry.Lower
