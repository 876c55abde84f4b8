import Inquiry.Statement.Query

/-!
# Sameness of statements

Two statements are the same when they are built alike from the same names, literals and texts. Names
are compared without regard to case; table names and patterns are compared as they are.
-/

namespace Inquiry.Statement

/-- Whether two lists of names are the same. -/
def sameNames : List Name → List Name → Bool
  | [], [] => true
  | a :: as, b :: bs => a.same b && sameNames as bs
  | _, _ => false

mutual

/-- Whether two expressions are the same. -/
def Expr.same : Expr → Expr → Bool
  | .aggregate f x, .aggregate g y => f == g && x.same y
  | .allColumns, .allColumns => true
  | .arith op a b, .arith oq c d => op == oq && a.same c && b.same d
  | .case as x, .case bs y => sameBranches as bs && x.same y
  | .cast x s, .cast y t => x.same y && s == t
  | .columnGroup x ms, .columnGroup y ns => x.same y && sameNames ms ns
  | .count x p, .count y q => x.same y && p == q
  | .countRows p, .countRows q => p == q
  | .defaultTable, .defaultTable => true
  | .field x m, .field y n => x.same y && m.same n
  | .call f xs, .call g ys => f == g && sameExprs xs ys
  | .literal k, .literal l => k.same l
  | .negate x, .negate y => x.same y
  | .param m, .param n => m.same n
  | _, _ => false

/-- Whether two conditions are the same. -/
def Condition.same : Condition → Condition → Bool
  | .between x a b p, .between y c d q => x.same y && a.same c && b.same d && p == q
  | .inList x as p h, .inList y bs q k => x.same y && sameExprs as bs && p == q && h == k
  | .isNull x p, .isNull y q => x.same y && p == q
  | .like x s e p, .like y t f q => x.same y && s == t && e == f && p == q
  | .logic a op b, .logic c oq d => a.same c && op == oq && b.same d
  | .not x, .not y => x.same y
  | .refs x s, .refs y t => x.same y && s == t
  | .relation a op b, .relation c oq d => a.same c && op == oq && b.same d
  | _, _ => false

/-- Whether two lists of expressions are the same. -/
def sameExprs : List Expr → List Expr → Bool
  | [], [] => true
  | x :: xs, y :: ys => x.same y && sameExprs xs ys
  | _, _ => false

/-- Whether two lists of branches are the same. -/
def sameBranches : List (Condition × Expr) → List (Condition × Expr) → Bool
  | [], [] => true
  | (c, x) :: as, (d, y) :: bs => c.same d && x.same y && sameBranches as bs
  | _, _ => false

end

/-- Whether two optional things are the same. -/
def sameOption {α : Type} (same : α → α → Bool) : Option α → Option α → Bool
  | none, none => true
  | some a, some b => same a b
  | _, _ => false

/-- Whether two lists of sort keys are the same. -/
def sameKeys : List SortKey → List SortKey → Bool
  | [], [] => true
  | a :: as, b :: bs => a.expr.same b.expr && a.direction == b.direction && sameKeys as bs
  | _, _ => false

/-- Whether two column lists are the same. -/
def Select.same (a b : Select) : Bool :=
  a.distinct == b.distinct && a.top == b.top && sameExprs a.columns b.columns

/-- Whether two queries are the same. -/
def Query.same (a b : Query) : Bool :=
  a.select.same b.select && a.source == b.source &&
    sameOption Condition.same a.filter b.filter && sameOption sameKeys a.order b.order

end Inquiry.Statement
