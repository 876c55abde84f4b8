import Inquiry.Text.Glyphless
import Inquiry.Text.Combining

/-!
# Escaped text

Diagnostics show strings and characters between quotes on one line. The line controls, the backslash
and the delimiter are written with a backslash; a character that would not be seen where it stands is
written by its number; every other character stands for itself.
-/

namespace Inquiry.Text

/-- Whether the character would not be seen, or would attach itself to the character before it. -/
def isHidden (c : Char) : Bool :=
  if 0x20 ≤ c.toNat && c.toNat < 0x7F then false else isCombining c || isGlyphless c

/-- The number of a character between braces, in lower-case hexadecimal. -/
def codePoint (c : Char) : List Char :=
  '\\' :: 'u' :: '\x7b' :: (Nat.toDigits 16 c.toNat ++ ['\x7d'])

/-- A character inside text that ends at `delimiter`. -/
def escapeChar (delimiter c : Char) : List Char :=
  if c = '\x00' then ['\\', '0']
  else if c = '\t' then ['\\', 't']
  else if c = '\r' then ['\\', 'r']
  else if c = '\n' then ['\\', 'n']
  else if c = '\\' || c = delimiter then ['\\', c]
  else if isHidden c then codePoint c
  else [c]

/-- A string between double quotes. -/
def escapeString (s : String) : String :=
  "\"" ++ String.ofList (s.toList.flatMap (escapeChar '"')) ++ "\""

/-- A character between apostrophes. -/
def escapeSingle (c : Char) : String :=
  "\x27" ++ String.ofList (escapeChar '\x27' c) ++ "\x27"

end Inquiry.Text
