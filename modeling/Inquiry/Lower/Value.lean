import Inquiry.Lower.Basic

/-!
# Value expressions

One function for each form of host expression, over the lowered forms of its parts. The parts are
lowered in the order of their text, except that sizes and types of a conversion are looked up before
its operand.
-/

namespace Inquiry.Lower

open Statement (Arith Function)

/-- An operand together with its lowered form. -/
abbrev Argument := Host.Expr × Lowered

/-- The table of a member access: the input, or a value that refers to a row. -/
def asTable (base : Host.Expr) (value : Lowering Statement.Expr) : Lowering Statement.Expr :=
  match base with
  | .input t => if t.isRecord then pure .defaultTable else refuse .memberOfNonRecord base
  | .member _ _ t => if t.isRecord then value else refuse .memberOfNonRecord base
  | .convert _ (.record _) => value
  | .call (.toRecord _) _ => value
  | _ => refuse .memberOfNonRecord base

/-- Two operands in order. -/
def lowerPair (lhs rhs : Lowered) (make : Statement.Expr → Statement.Expr → Statement.Expr) :
    Lowered := fun p => do
  let l ← lhs p
  let r ← rhs p
  pure (make l r)

/-- An operator as a value. -/
def lowerBinary (whole : Host.Expr) (op : Host.Operator) (lhs rhs : Lowered) : Lowered := fun p =>
  match op with
  | .arith op => lowerPair lhs rhs (.arith op) p
  | .coalesce => do
      let l ← lhs p
      let r ← rhs p
      call .isNull [l, r]
  | .relation _ | .logic _ => refuse .conditionAsValue whole

/-- A size argument. -/
def sizeOf (e : Host.Expr) : Except Error Nat :=
  match e.value? with
  | some v => v.toSize
  | none => .error (Refusal.dynamicSize.ofExpr e)

/-- A CAST to a type that is looked up first. -/
def lowerCast (type : Except Error Statement.CastType) (operand : Lowered) : Lowered := fun p => do
  let t ← lift type
  let x ← operand p
  pure (.cast x t)

/-- The negative of a value. -/
def lowerNegate (operand : Lowered) : Lowered := fun p => do
  let x ← operand p
  pure (.negate x)

/-- A function of one operand, with what else it is given. -/
def lowerFunction (func : Function) (operand : Lowered) (others : List Statement.Expr) : Lowered :=
  fun p => do
    let x ← operand p
    call func (x :: others)

/-- A field of a row by a constant name. -/
def lowerGet (whole : Host.Expr) (record : Argument) (name : Host.Expr) : Lowered := fun p => do
  let table ← asTable record.1 (record.2 p)
  match name.value?.bind Value.string? with
  | some n => pure (.field table ⟨n⟩)
  | none => refuse .dynamicFieldName whole

/-- Whether a method is a test. -/
def isPredicate : Host.Method → Bool
  | .isIn | .inHierarchy | .notIn | .contains | .like | .notLike | .between | .notBetween => true
  | _ => false

/-- A call as a value. -/
def lowerCall (s : Mapping) (whole : Host.Expr) (method : Host.Method) (args : List Argument) :
    Lowered := fun p =>
  match method, args with
  | .getValue _, [record, name] => lowerGet whole record name.1 p
  | .toNumber, [x, length] => lowerCast ((sizeOf length.1).map .numberOf) x.2 p
  | .toDecimal, [x, length, precision] =>
      lowerCast
        (do
          let l ← sizeOf length.1
          let q ← sizeOf precision.1
          .ok (.numberWith l q))
        x.2 p
  | .toText, [x, length] => lowerCast ((sizeOf length.1).map .stringOf) x.2 p
  | .toRecord id, [x] => lowerCast ((tableOf s id).map .table) x.2 p
  | .substring, [text, start, length] => do
      let t ← text.2 p
      let i ← start.2 p
      let n ← length.2 p
      call .substring [t, i, n]
  | .datePart part, [date] => lowerFunction part.function date.2 [] p
  | .beginOfPeriod period, [date] =>
      lowerFunction .beginOfPeriod date.2 [.literal (.period period)] p
  | .endOfPeriod period, [date] => lowerFunction .endOfPeriod date.2 [.literal (.period period)] p
  | method, _ => refuse (if isPredicate method then .predicateAsValue else .wrongArguments) whole

/-- A conversion. It is left out where the query language needs none. -/
def lowerConvert (s : Mapping) (operand : Host.Expr) (t : Host.Ty) (value : Lowered) : Lowered :=
  fun p =>
    if t.isObject || operand.type = t then value p
    else if operand.type.isObject then lowerCast (castType s t) value p
    else if operand.type.isNumeric && t.isNumeric then value p
    else lift (.error (castFailure s t))

/-- A member access. -/
def lowerMember (s : Mapping) (base : Host.Expr) (ref : Host.MemberRef) (value : Lowered) : Lowered :=
  fun p =>
    match ref with
    | .field id => do
        let table ← asTable base (value p)
        let name ← lift (fieldOf s id)
        pure (.field table ⟨name⟩)
    | .datePart part => lowerFunction part.function value [] p

/-- Whether an expression is a conditional. -/
def isConditional : Host.Expr → Bool
  | .conditional .. => true
  | _ => false

/-- The branches and the default with which a CASE goes on after its first branch. What a conditional
became has them; any other value is the default. -/
def caseTail (continues : Bool) (rest : Statement.Expr) :
    List (Statement.Condition × Statement.Expr) × Statement.Expr :=
  match continues, rest with
  | true, .case branches default => (branches, default)
  | _, _ => ([], rest)

/-- A conditional. -/
def lowerConditional (test : Placement → Lowering Statement.Condition) (yes : Lowered)
    (no : Argument) : Lowered := fun p => do
  let c ← test p
  let v ← yes p
  let rest ← no.2 p
  let tail := caseTail (isConditional no.1) rest
  lift (Statement.Expr.caseOf ((c, v) :: tail.1) tail.2)

/-- A whole record as a value. -/
def lowerRecord (usage : String) : Lowered := fun _ => lift (.error (.recordUsage usage))

end Inquiry.Lower
