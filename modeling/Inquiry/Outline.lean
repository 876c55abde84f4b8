import Inquiry.Text.Escaped

/-!
# Outlines

An outline is the shape in which values, expressions and errors are shown in diagnostics: a word, a
name with parts in parentheses, a name with named fields, a list, or a table from names to parts. An
outline is written on one line, or indented with a line for each part.
-/

namespace Inquiry

/-- The shape in which something is shown in a diagnostic. -/
inductive Outline where
  /-- A word that is shown as it is. -/
  | word (text : String)
  /-- A name followed by parts in parentheses. -/
  | node (name : String) (parts : List Outline)
  /-- A name followed by named fields in braces. -/
  | fields (name : String) (entries : List (String × Outline))
  /-- Items in square brackets. -/
  | items (parts : List Outline)
  /-- Quoted names with their parts, in braces. -/
  | table (entries : List (String × Outline))

namespace Outline

/-- A string in escaped quotes. -/
def text (s : String) : Outline := .word (Text.escapeString s)

/-- A name with one part. -/
def wrap (name : String) (part : Outline) : Outline := .node name [part]

/-- An optional part. -/
def optional : Option Outline → Outline
  | none => .word "None"
  | some part => .wrap "Some" part

/-! ## On one line -/

mutual
/-- The outline on one line. -/
def line : Outline → String
  | .word text => text
  | .node name parts => name ++ "(" ++ String.intercalate ", " (lines parts) ++ ")"
  | .fields name entries =>
      name ++ " \x7b " ++ String.intercalate ", " (fieldLines entries) ++ " \x7d"
  | .items parts => "[" ++ String.intercalate ", " (lines parts) ++ "]"
  | .table entries => "\x7b" ++ String.intercalate ", " (entryLines entries) ++ "\x7d"

def lines : List Outline → List String
  | [] => []
  | part :: rest => line part :: lines rest

def fieldLines : List (String × Outline) → List String
  | [] => []
  | (name, part) :: rest => (name ++ ": " ++ line part) :: fieldLines rest

def entryLines : List (String × Outline) → List String
  | [] => []
  | (name, part) :: rest => (Text.escapeString name ++ ": " ++ line part) :: entryLines rest
end

/-! ## Indented -/

/-- The line break before a part at the given depth. -/
def newline (depth : Nat) : String :=
  "\n" ++ String.ofList (List.replicate (4 * depth) ' ')

mutual
/-- The outline with a line for each part, as it continues a line at the given depth. -/
def indented (depth : Nat) : Outline → String
  | .word text => text
  | .node name parts => name ++ "(" ++ indentedParts (depth + 1) parts ++ newline depth ++ ")"
  | .fields name entries =>
      name ++ " \x7b" ++ indentedFields (depth + 1) entries ++ newline depth ++ "\x7d"
  | .items [] => "[]"
  | .items (part :: rest) =>
      "[" ++ newline (depth + 1) ++ indented (depth + 1) part ++ "," ++
        indentedParts (depth + 1) rest ++ newline depth ++ "]"
  | .table [] => "\x7b\x7d"
  | .table ((name, part) :: rest) =>
      "\x7b" ++ newline (depth + 1) ++ Text.escapeString name ++ ": " ++
        indented (depth + 1) part ++ "," ++ indentedEntries (depth + 1) rest ++
        newline depth ++ "\x7d"

def indentedParts (depth : Nat) : List Outline → String
  | [] => ""
  | part :: rest =>
      newline depth ++ indented depth part ++ "," ++ indentedParts depth rest

def indentedFields (depth : Nat) : List (String × Outline) → String
  | [] => ""
  | (name, part) :: rest =>
      newline depth ++ name ++ ": " ++ indented depth part ++ "," ++ indentedFields depth rest

def indentedEntries (depth : Nat) : List (String × Outline) → String
  | [] => ""
  | (name, part) :: rest =>
      newline depth ++ Text.escapeString name ++ ": " ++ indented depth part ++ "," ++
        indentedEntries depth rest
end

end Outline

end Inquiry
