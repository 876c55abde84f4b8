import Inquiry.Statement.Query

/-!
# The text of statements

Operands are put in parentheses where they would be written with blanks of their own; arguments of
functions, tests and values of a CASE, and the parts of a query stand bare.
-/

namespace Inquiry.Statement

/-- A type as it is written. -/
def CastType.render : CastType → String
  | .boolean => "BOOLEAN"
  | .date => "DATE"
  | .number => "NUMBER"
  | .numberOf length => "NUMBER(" ++ toString length ++ ")"
  | .numberWith length precision =>
      "NUMBER(" ++ toString length ++ ", " ++ toString precision ++ ")"
  | .string => "STRING"
  | .stringOf length => "STRING(" ++ toString length ++ ")"
  | .table name => name

/-- Text in parentheses where they are needed. -/
def grouped (needed : Bool) (text : String) : String :=
  if needed then "(" ++ text ++ ")" else text

/-- Texts with commas between them. -/
def commas (texts : List String) : String :=
  String.intercalate ", " texts

/-- A field, qualified by the text of its table unless that is the default one. -/
def qualified (table : Expr) (tableText : String) (name : Name) : String :=
  if table.isDefaultTable then name.text
  else grouped table.hasSpaces tableText ++ "." ++ name.text

/-- The word for a negated test. -/
def negation (positive : Bool) : String := if positive then "" else " NOT"

mutual

/-- An expression as it is written. -/
def Expr.render : Expr → String
  | .aggregate func operand => func.text ++ "(" ++ operand.render ++ ")"
  | .allColumns => "*"
  | .arith op lhs rhs => "(" ++ lhs.render ++ ") " ++ op.token ++ " (" ++ rhs.render ++ ")"
  | .case branches default =>
      "CASE" ++ renderBranches branches ++ " ELSE " ++ default.render ++ " END"
  | .cast operand type => "CAST(" ++ operand.render ++ " AS " ++ type.render ++ ")"
  | .columnGroup table fields =>
      "(" ++ commas (fields.map (qualified table table.render)) ++ ")"
  | .count operand distinct =>
      (if distinct then "COUNT(DISTINCT " else "COUNT(") ++ operand.render ++ ")"
  | .countRows _ => "COUNT(*)"
  | .defaultTable => ""
  | .field table name => qualified table table.render name
  | .call func args => func.text ++ "(" ++ commas (renderAll args) ++ ")"
  | .literal l => l.text
  | .negate operand => "-" ++ grouped operand.hasSpaces operand.render
  | .param name => "&" ++ name.text

/-- A condition as it is written. -/
def Condition.render : Condition → String
  | .between operand start stop positive =>
      grouped operand.hasSpaces operand.render ++ negation positive ++ " BETWEEN " ++
        grouped start.hasSpaces start.render ++ " AND " ++ grouped stop.hasSpaces stop.render
  | .inList operand values positive hierarchy =>
      grouped operand.hasSpaces operand.render ++ negation positive ++ " IN " ++
        (if hierarchy then "HIERARCHY " else "") ++ "(" ++ commas (renderAll values) ++ ")"
  | .isNull operand positive =>
      grouped operand.hasSpaces operand.render ++ (if positive then " IS NULL" else " IS NOT NULL")
  | .like operand pattern escape positive =>
      grouped operand.hasSpaces operand.render ++ negation positive ++ " LIKE " ++
        Text.quote pattern ++
        (match escape with
        | some c => " ESCAPE " ++ Text.quote (String.ofList [c])
        | none => "")
  | .logic lhs op rhs =>
      grouped lhs.hasSpaces lhs.render ++ " " ++ op.keyword ++ " " ++
        grouped rhs.hasSpaces rhs.render
  | .not operand => "NOT " ++ grouped operand.hasSpaces operand.render
  | .refs operand table => grouped operand.hasSpaces operand.render ++ " REFS " ++ table
  | .relation lhs op rhs =>
      grouped lhs.hasSpaces lhs.render ++ " " ++ op.token ++ " " ++
        grouped rhs.hasSpaces rhs.render

/-- The texts of several expressions. -/
def renderAll : List Expr → List String
  | [] => []
  | e :: rest => e.render :: renderAll rest

/-- The branches of a CASE. -/
def renderBranches : List (Condition × Expr) → String
  | [] => ""
  | (test, value) :: rest =>
      " WHEN " ++ test.render ++ " THEN " ++ value.render ++ renderBranches rest

end

/-- The columns of a query as they are written. -/
def Select.render (s : Select) : String :=
  "SELECT " ++ (if s.distinct then "DISTINCT " else "") ++
    (match s.top with
    | some n => "TOP " ++ toString n ++ " "
    | none => "") ++
    commas (renderAll s.columns)

/-- A sort key as it is written. -/
def SortKey.render (k : SortKey) : String :=
  k.expr.render ++ (if k.direction.isDescending then " DESC" else "")

/-- A query as it is written. -/
def Query.render (q : Query) : String :=
  q.select.render ++
    (match q.source with
    | some name => " FROM " ++ name
    | none => "") ++
    (match q.filter with
    | some c => " WHERE " ++ c.render
    | none => "") ++
    (match q.order with
    | some keys => " ORDER BY " ++ commas (keys.map SortKey.render)
    | none => "")

end Inquiry.Statement
