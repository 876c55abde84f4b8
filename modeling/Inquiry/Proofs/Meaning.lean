import Inquiry.Statement.Expr

/-!
# Meanings of expressions

What the query language makes of an operator, a field or a parameter is not said
here. An interpretation says it: for every construct it gives the value from the
values of the operands, and for every test whether it holds, fails or is not
known. Only CASE means the same in every interpretation.

Values depend on the row they are taken at. An operand is handed to its construct
with its values at all rows, not with one value, so that an interpretation may
read a total over the rows into an aggregate, or another row into a field of a
table.
-/

namespace Inquiry.Statement

universe u

/-- What a test says. -/
inductive Truth where
  | holds
  | fails
  | unknown
  deriving DecidableEq

/-- What every construct but CASE means. -/
structure Interpretation (Row Val : Type u) where
  aggregate : Aggregate → (Row → Val) → Row → Val
  allColumns : Row → Val
  arith : Arith → (Row → Val) → (Row → Val) → Row → Val
  cast : (Row → Val) → CastType → Row → Val
  columnGroup : (Row → Val) → List Name → Row → Val
  count : (Row → Val) → Bool → Row → Val
  countRows : Bool → Row → Val
  defaultTable : Row → Val
  field : (Row → Val) → Name → Row → Val
  call : Function → List (Row → Val) → Row → Val
  literal : Literal → Row → Val
  negate : (Row → Val) → Row → Val
  param : Name → Row → Val
  between : (Row → Val) → (Row → Val) → (Row → Val) → Bool → Row → Truth
  inList : (Row → Val) → List (Row → Val) → Bool → Bool → Row → Truth
  isNull : (Row → Val) → Bool → Row → Truth
  like : (Row → Val) → String → Option Char → Bool → Row → Truth
  logic : (Row → Truth) → Connective → (Row → Truth) → Row → Truth
  not : (Row → Truth) → Row → Truth
  refs : (Row → Val) → String → Row → Truth
  relation : (Row → Val) → Relation → (Row → Val) → Row → Truth

section

variable {Row Val : Type u}

/-- The value of the first branch whose test holds, and the default where none does. -/
def choose (branches : List ((Row → Truth) × (Row → Val))) (default : Row → Val) : Row → Val :=
  fun row =>
    match branches.find? fun branch => branch.1 row = .holds with
    | some branch => branch.2 row
    | none => default row

/-- The branches after the first are as good as a default. -/
theorem choose_cons (branch : (Row → Truth) × (Row → Val))
    (rest : List ((Row → Truth) × (Row → Val))) (default : Row → Val) :
    choose (branch :: rest) default = choose [branch] (choose rest default) := by
  funext row
  by_cases h : branch.1 row = .holds
  · simp only [choose, List.find?_cons, h, decide_true]
  · simp only [choose, List.find?_cons, h, decide_false, List.find?_nil]

namespace Interpretation

mutual

/-- The value of an expression at a row. -/
@[simp]
def value (I : Interpretation Row Val) : Expr → Row → Val
  | .aggregate func operand => I.aggregate func (I.value operand)
  | .allColumns => I.allColumns
  | .arith op lhs rhs => I.arith op (I.value lhs) (I.value rhs)
  | .case branches default => choose (I.branches branches) (I.value default)
  | .cast operand type => I.cast (I.value operand) type
  | .columnGroup table fields => I.columnGroup (I.value table) fields
  | .count operand distinct => I.count (I.value operand) distinct
  | .countRows distinct => I.countRows distinct
  | .defaultTable => I.defaultTable
  | .field table name => I.field (I.value table) name
  | .call func args => I.call func (I.values args)
  | .literal l => I.literal l
  | .negate operand => I.negate (I.value operand)
  | .param name => I.param name

/-- What a condition says about a row. -/
@[simp]
def truth (I : Interpretation Row Val) : Condition → Row → Truth
  | .between operand start stop positive =>
      I.between (I.value operand) (I.value start) (I.value stop) positive
  | .inList operand values positive hierarchy =>
      I.inList (I.value operand) (I.values values) positive hierarchy
  | .isNull operand positive => I.isNull (I.value operand) positive
  | .like operand pattern escape positive => I.like (I.value operand) pattern escape positive
  | .logic lhs op rhs => I.logic (I.truth lhs) op (I.truth rhs)
  | .not operand => I.not (I.truth operand)
  | .refs operand table => I.refs (I.value operand) table
  | .relation lhs op rhs => I.relation (I.value lhs) op (I.value rhs)

/-- The values of several expressions. -/
@[simp]
def values (I : Interpretation Row Val) : List Expr → List (Row → Val)
  | [] => []
  | e :: rest => I.value e :: I.values rest

/-- The tests and the values of the branches of a CASE. -/
@[simp]
def branches (I : Interpretation Row Val) :
    List (Condition × Expr) → List ((Row → Truth) × (Row → Val))
  | [] => []
  | (test, value) :: rest => (I.truth test, I.value value) :: I.branches rest

end

/-- A CASE that goes on means its first branch before a CASE with the others. -/
theorem value_case_cons (I : Interpretation Row Val) (test : Condition) (value : Expr)
    (rest : List (Condition × Expr)) (default : Expr) :
    I.value (.case ((test, value) :: rest) default) =
      choose [(I.truth test, I.value value)] (I.value (.case rest default)) := by
  rw [Interpretation.value, Interpretation.value, Interpretation.branches, choose_cons]

theorem value_case_single (I : Interpretation Row Val) (test : Condition) (value default : Expr) :
    I.value (.case [(test, value)] default) =
      choose [(I.truth test, I.value value)] (I.value default) := by
  rw [Interpretation.value, Interpretation.branches, Interpretation.branches]

end Interpretation

end

end Inquiry.Statement
