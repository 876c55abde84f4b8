import Inquiry.Host.Operand

/-!
# Constant folding

Parts of an expression that do not depend on the input are evaluated before the expression is lowered.
All parts are folded first, from left to right, and the first failure is the answer; then the node is
simplified. The static type of arithmetic is that of the expression before folding.
-/

namespace Inquiry.Host

open Statement (Arith Connective Relation)

/-- Converts a folded value to a scalar type; other types leave it as it is. -/
def convertTo (v : Value) (type : Ty) : Except Error Value :=
  match type.kind? with
  | some kind => v.convert kind
  | none => .ok v

/-- A connective of folded operands. A constant that decides the result alone replaces the whole; the
other constant leaves the other operand. -/
def foldLogic (lhs : Expr) (op : Connective) (rhs : Expr) : Expr :=
  let deciding := op == .or
  if lhs.bool? = some deciding || rhs.bool? = some deciding then .ofValue (.bool deciding)
  else if lhs.bool?.isSome then rhs
  else if rhs.bool?.isSome then lhs
  else .binary lhs (.logic op) rhs

/-- The first of two folded operands that is not null. -/
def foldCoalesce (lhs rhs : Expr) : Expr :=
  match lhs with
  | .constant .null _ => rhs
  | .constant v t => .constant v t
  | _ => .binary lhs .coalesce rhs

/-- A comparison of folded operands. -/
def foldRelation (lhs : Expr) (op : Operator) (rhs : Expr) : Except Error Expr :=
  match lhs, rhs with
  | .constant a _, .constant b _ => do
      let result ← Error.ofMisuse (compareValues a op b)
      .ok (.ofValue (.bool result))
  | _, _ => .ok (.binary lhs op rhs)

/-- Arithmetic on two constants that are not null. -/
def foldNumbers (type : Ty) (lhs : Expr) (op : Operator) (rhs : Expr) (a b : Value) :
    Except Error Expr :=
  match Operand.ofValue? a, Operand.ofValue? b with
  | some x, some y => do
      let result ← (x.apply op y).mapError ArithmeticFault.error
      let v ← convertTo result.toValue type
      .ok (.constant v type)
  | _, _ => .ok (.binary lhs op rhs)

/-- Arithmetic on folded operands. The result with a null is null. -/
def foldArith (type : Ty) (lhs : Expr) (op : Operator) (rhs : Expr) : Except Error Expr :=
  match lhs, rhs with
  | .constant a _, .constant b _ =>
      if a.isNull || b.isNull then .ok (.constant .null type) else foldNumbers type lhs op rhs a b
  | _, _ => .ok (.binary lhs op rhs)

/-- An operator with folded operands. What is neither logic nor a comparison is taken for arithmetic. -/
def foldBinary (type : Ty) (lhs : Expr) (op : Operator) (rhs : Expr) : Except Error Expr :=
  if op.isLogic then .ok (foldLogic lhs op.connective rhs)
  else if op = .coalesce then .ok (foldCoalesce lhs rhs)
  else if op.isRelation then foldRelation lhs op rhs
  else foldArith type lhs op rhs

section

variable (type : Ty) (lhs rhs : Expr)

theorem foldBinary_logic (op : Connective) :
    foldBinary type lhs (.logic op) rhs = .ok (foldLogic lhs op rhs) := by
  rw [foldBinary, Operator.connective_logic]
  rfl

theorem foldBinary_coalesce :
    foldBinary type lhs .coalesce rhs = .ok (foldCoalesce lhs rhs) := rfl

theorem foldBinary_relation (op : Relation) :
    foldBinary type lhs (.relation op) rhs = foldRelation lhs (.relation op) rhs := rfl

theorem foldBinary_arith (op : Arith) :
    foldBinary type lhs (.arith op) rhs = foldArith type lhs (.arith op) rhs := rfl

end

/-- A conditional with folded parts. -/
def foldConditional (test yes no : Expr) : Expr :=
  match test.bool? with
  | some true => yes
  | some false => no
  | none => .conditional test yes no

/-- A conversion of a folded operand. -/
def foldConvert (operand : Expr) (type : Ty) : Except Error Expr :=
  match operand with
  | .constant v _ =>
      if type.isObject || type.isScalar then do
        let converted ← convertTo v type
        .ok (.constant converted type)
      else .ok (.convert operand type)
  | _ => .ok (.convert operand type)

/-- An array of folded items. -/
def foldArray (item : Ty) (items : List Expr) : Expr :=
  if items.all Expr.isConstant then .constant (.list (items.filterMap Expr.value?)) (.list item)
  else .array item items

/-- The negation of a folded condition. -/
def foldNot (operand : Expr) : Expr :=
  match operand.bool? with
  | some b => .ofValue (.bool (!b))
  | none => .not operand

/-- The negative of a folded operand. -/
def foldNegate (type : Ty) (operand : Expr) : Except Error Expr :=
  match operand.value?.bind Operand.ofValue? with
  | some x => do
      let result ← x.negate.mapError ArithmeticFault.error
      let v ← convertTo result.toValue type
      .ok (.constant v type)
  | none => .ok (.negate operand)

mutual
/-- The expression with all constant parts evaluated. -/
def Expr.fold : Expr → Except Error Expr
  | .binary lhs op rhs => do
      let l ← lhs.fold
      let r ← rhs.fold
      foldBinary (op.type lhs.type rhs.type) l op r
  | .call method args => do
      let folded ← foldAll args
      .ok (.call method folded)
  | .conditional test yes no => do
      let t ← test.fold
      let y ← yes.fold
      let n ← no.fold
      .ok (foldConditional t y n)
  | .constant v type => .ok (.constant v type)
  | .convert operand type => do
      let folded ← operand.fold
      foldConvert folded type
  | .input type => .ok (.input type)
  | .member base ref type => do
      let folded ← base.fold
      .ok (.member folded ref type)
  | .construct type members => do
      let folded ← foldMembers members
      .ok (.construct type folded)
  | .array item items => do
      let folded ← foldAll items
      .ok (foldArray item folded)
  | .typeIs operand record => do
      let folded ← operand.fold
      .ok (.typeIs folded record)
  | .not operand => do
      let folded ← operand.fold
      .ok (foldNot folded)
  | .negate operand => do
      let folded ← operand.fold
      foldNegate operand.type folded

/-- Folds several expressions. -/
def foldAll : List Expr → Except Error (List Expr)
  | [] => .ok []
  | e :: rest => do
      let folded ← e.fold
      let others ← foldAll rest
      .ok (folded :: others)

/-- Folds the members of a construction. -/
def foldMembers : List (String × Expr) → Except Error (List (String × Expr))
  | [] => .ok []
  | (name, e) :: rest => do
      let folded ← e.fold
      let others ← foldMembers rest
      .ok ((name, folded) :: others)
end

end Inquiry.Host
