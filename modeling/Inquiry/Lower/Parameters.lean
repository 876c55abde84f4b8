import Inquiry.Value.Basic

/-!
# Parameters

The parameters that the conditions of a query refer to. They are numbered from one in the order in
which they are registered; a name is a stem followed by the number.
-/

namespace Inquiry.Lower

/-- A parameter with its value. -/
structure Parameter where
  name : String
  value : Value

/-- The parameters that were registered, in order. -/
structure Parameters where
  stem : String
  entries : List Parameter

namespace Parameters

/-- The stem of the names where none is given. -/
def defaultStem : String := "p"

/-- No parameters yet. -/
def start (stem : String) : Parameters := ⟨stem, []⟩

/-- The name of the parameter with the given number. -/
def nameOf (stem : String) (number : Nat) : String := stem ++ toString number

/-- The name of the next parameter. -/
def nextName (ps : Parameters) : String := nameOf ps.stem (ps.entries.length + 1)

/-- Registers a value under the next name. -/
def add (ps : Parameters) (v : Value) : Parameters :=
  { ps with entries := ps.entries ++ [⟨ps.nextName, v⟩] }

end Parameters

end Inquiry.Lower
