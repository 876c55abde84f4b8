import Inquiry.Text.Case

/-!
# Names

Field and parameter names of the query language are the same when they agree in lower case. A name
keeps its spelling.
-/

namespace Inquiry.Statement

/-- A field or parameter name. -/
structure Name where
  text : String
  deriving DecidableEq

namespace Name

/-- The lower-case form by which names are compared. -/
def folded (n : Name) : List Char := Text.lowerAll n.text

/-- Whether two names are the same. -/
def same (a b : Name) : Bool := a.folded == b.folded

end Name

end Inquiry.Statement
