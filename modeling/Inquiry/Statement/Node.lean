import Inquiry.Statement.Query

/-!
# The nodes of a statement

The nodes of a statement in the order in which their text begins, each before its parts. The names of
the parameters to which a statement refers are read off this list.
-/

namespace Inquiry.Statement

/-- A node of a statement, without its parts. -/
inductive Node where
  | aggregate
  | allColumns
  | arith
  | between
  | case
  | cast
  | columnGroup
  | count
  | defaultTable
  | field
  | call
  | inList
  | isNull
  | like
  | literal
  | logic
  | negate
  | not
  | order
  | param (name : Name)
  | query
  | refs
  | relation
  | select

/-- The short name of the kind of node. -/
def Node.label : Node → String
  | aggregate => "agg"
  | allColumns => "all"
  | arith => "op"
  | between => "between"
  | case => "case"
  | cast => "cast"
  | columnGroup => "group"
  | count => "count"
  | defaultTable => "default"
  | field => "field"
  | call => "func"
  | inList => "in"
  | isNull => "null"
  | like => "like"
  | literal => "lit"
  | logic => "logic"
  | negate => "neg"
  | not => "not"
  | order => "order_by"
  | param _ => "param"
  | query => "query"
  | refs => "refs"
  | relation => "rel"
  | select => "select"

/-- The parameter to which the node refers. -/
def Node.param? : Node → Option Name
  | param name => some name
  | _ => none

mutual

/-- The nodes of an expression. -/
def Expr.nodes : Expr → List Node
  | .aggregate _ operand => .aggregate :: operand.nodes
  | .allColumns => [.allColumns]
  | .arith _ lhs rhs => .arith :: (lhs.nodes ++ rhs.nodes)
  | .case branches default => .case :: (branchNodes branches ++ default.nodes)
  | .cast operand _ => .cast :: operand.nodes
  | .columnGroup table _ => .columnGroup :: table.nodes
  | .count operand _ => .count :: operand.nodes
  | .countRows _ => [.count]
  | .defaultTable => [.defaultTable]
  | .field table _ => .field :: table.nodes
  | .call _ args => .call :: exprNodes args
  | .literal _ => [.literal]
  | .negate operand => .negate :: operand.nodes
  | .param name => [.param name]

/-- The nodes of a condition. -/
def Condition.nodes : Condition → List Node
  | .between operand start stop _ => .between :: (operand.nodes ++ start.nodes ++ stop.nodes)
  | .inList operand values _ _ => .inList :: (operand.nodes ++ exprNodes values)
  | .isNull operand _ => .isNull :: operand.nodes
  | .like operand _ _ _ => .like :: operand.nodes
  | .logic lhs _ rhs => .logic :: (lhs.nodes ++ rhs.nodes)
  | .not operand => .not :: operand.nodes
  | .refs operand _ => .refs :: operand.nodes
  | .relation lhs _ rhs => .relation :: (lhs.nodes ++ rhs.nodes)

/-- The nodes of several expressions. -/
def exprNodes : List Expr → List Node
  | [] => []
  | e :: rest => e.nodes ++ exprNodes rest

/-- The nodes of the branches of a CASE. -/
def branchNodes : List (Condition × Expr) → List Node
  | [] => []
  | (test, value) :: rest => test.nodes ++ value.nodes ++ branchNodes rest

end

/-- The nodes of a query. -/
def Query.nodes (q : Query) : List Node :=
  .query :: .select :: (exprNodes q.select.columns ++
    (q.filter.map Condition.nodes).getD [] ++
    (q.order.map fun keys => .order :: exprNodes (keys.map (·.expr))).getD [])

/-- The parameters to which an expression refers, in order. -/
def Expr.params (e : Expr) : List Name := e.nodes.filterMap Node.param?

/-- The parameters to which a condition refers, in order. -/
def Condition.params (c : Condition) : List Name := c.nodes.filterMap Node.param?

/-- The parameters to which a query refers, in order. -/
def Query.params (q : Query) : List Name := q.nodes.filterMap Node.param?

end Inquiry.Statement
