/-!
# Quoted strings of the query language

A string constant stands between double quotes, and a double quote inside it is written twice. No
other character is special, so a quoted string ends at its first quote that is not doubled.
-/

namespace Inquiry.Text

/-- The characters of a string with every double quote doubled. -/
def doubleQuotes : List Char → List Char
  | [] => []
  | c :: rest => if c = '"' then '"' :: '"' :: doubleQuotes rest else c :: doubleQuotes rest

/-- The string between double quotes, with every double quote inside it doubled. -/
def quote (s : String) : String :=
  "\"" ++ String.ofList (doubleQuotes s.toList) ++ "\""

end Inquiry.Text
