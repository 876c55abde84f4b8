import Inquiry.Statement.Expr

/-!
# Queries

A query selects columns from a source, under a condition and in an order.
-/

namespace Inquiry.Statement

/-- The columns of a query. -/
structure Select where
  columns : List Expr
  distinct : Bool
  /-- The greatest number of rows. -/
  top : Option Nat

namespace Select

/-- All columns of the source. -/
def all : Select := ⟨[.allColumns], false, none⟩

/-- One column. -/
def single (e : Expr) : Select := ⟨[e], false, none⟩

/-- Several columns, of which there is at least one. -/
def ofColumns (columns : List Expr) : Except Error Select :=
  if columns.isEmpty then .error (.invalidStatement "column list is empty")
  else .ok ⟨columns, false, none⟩

/-- Whether all columns of the source are selected. -/
def isAll (s : Select) : Bool :=
  match s.columns with
  | [.allColumns] => true
  | _ => false

end Select

/-- A key of a sort. -/
structure SortKey where
  expr : Expr
  direction : Direction

/-- A list of sort keys, of which there is at least one. -/
def SortKey.check (keys : List SortKey) : Except Error (List SortKey) :=
  if keys.isEmpty then .error (.invalidStatement "ORDER BY list is empty") else .ok keys

/-- A query. A query without a sort has no sort keys at all. -/
structure Query where
  select : Select
  source : Option String
  filter : Option Condition
  order : Option (List SortKey)

end Inquiry.Statement
