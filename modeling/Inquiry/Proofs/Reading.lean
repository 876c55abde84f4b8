import Inquiry.Statement.Render

/-!
# A reader for the text of statements

The text of a statement is written for a server to read, and no server is part
of this library. To say that the text leaves nothing open, this module reads it
back. The reader works on characters: it knows the words and the punctuation
that the renderer writes, each with exactly the blanks around it that the
renderer puts there, and takes a run of letters, digits and underscores for a
name when it is none of those words.

Expressions and conditions are read by one function, since an opening
parenthesis may stand in front of either. A phrase is an operand, followed or
not by a link such as `" BETWEEN "` and what that link asks for. Operands never
look past themselves for a link: this is what keeps the `AND` of a range apart
from the connective.

A literal cannot be read back as it was, because values of several kinds are
written alike. The reader returns, in the place of each literal, the string
constant whose value is the text of the literal.

Only one reader calls itself. The others take the reader of the phrases inside
them as an argument, and `phrase` ties the knot on a bound for the depth.
-/

namespace Inquiry.Statement

/-! ## Words -/

/-- Whether the character may stand in a name. -/
def isWordChar (c : Char) : Bool := c.isAlphanum || c == '_' || 0x80 ≤ c.toNat

/-- Whether the character may stand in names with points between them. -/
def isPathChar (c : Char) : Bool := isWordChar c || c == '.'

/-- The words that stand for a value by themselves. -/
def constantWords : List String := ["NULL", "TRUE", "FALSE"] ++ Period.all.map Period.keyword

/-- The words that a text may hold besides names. -/
def printedWords : List String :=
  ["SELECT", "DISTINCT", "TOP", "FROM", "WHERE", "ORDER", "BY", "DESC", "CASE", "WHEN", "THEN",
    "ELSE", "END", "CAST", "AS", "COUNT", "NOT", "BETWEEN", "IN", "HIERARCHY", "IS", "LIKE",
    "ESCAPE", "REFS", "DATETIME", "BOOLEAN", "DATE", "NUMBER", "STRING"] ++
    Connective.all.map Connective.keyword ++ Aggregate.all.map Aggregate.text ++
    Function.all.map Function.text ++ constantWords

/-- The literal that stands for all literals with the given text. -/
def textual (text : String) : Literal := .constant (.string text) (Text.quote text) rfl

/-! ## Fixed text -/

def after? (text : String) (cs : List Char) : Option (List Char) :=
  go text.toList cs
where
  go : List Char → List Char → Option (List Char)
    | [], cs => some cs
    | _ :: _, [] => none
    | p :: ps, c :: cs => if p = c then go ps cs else none

/-- Reads what follows the given text, if that text is there. -/
def optional {α : Type} (text : String) (item : List Char → Option (α × List Char))
    (cs : List Char) : Option (Option α × List Char) :=
  match after? text cs with
  | none => some (none, cs)
  | some cs => do
      let (a, cs) ← item cs
      return (some a, cs)

/-- Reads things with commas between them, none at all if not even one can be read. -/
def sequence {α : Type} (item : List Char → Option (α × List Char)) :
    Nat → List Char → List α × List Char
  | 0, cs => ([], cs)
  | n + 1, cs =>
      match item cs with
      | none => ([], cs)
      | some (a, cs) =>
          match after? ", " cs with
          | none => ([a], cs)
          | some cs =>
              let (as, cs) := sequence item n cs
              (a :: as, cs)

/-- The characters up to the quote that closes a string, with doubled quotes undone. -/
def quoted : List Char → Option (List Char × List Char)
  | [] => none
  | '"' :: '"' :: cs => (quoted cs).map fun (s, cs) => ('"' :: s, cs)
  | '"' :: cs => some ([], cs)
  | c :: cs => (quoted cs).map fun (s, cs) => (c :: s, cs)

def stringConstant : List Char → Option (String × List Char)
  | '"' :: cs => (quoted cs).map fun (s, cs) => (String.ofList s, cs)
  | _ => none

/-- The run of path characters at the beginning. -/
def path (cs : List Char) : Option (List Char × List Char) :=
  some (cs.takeWhile isPathChar, cs.dropWhile isPathChar)

def numeral (cs : List Char) : Option (Nat × List Char) :=
  some (Nat.ofDigitChars 10 (cs.takeWhile Char.isDigit) 0, cs.dropWhile Char.isDigit)

/-! ## Types and fields -/

/-- Reads the lengths that may follow the name of a type. -/
def lengths (cs : List Char) : Option (List Nat × List Char) :=
  match after? "(" cs with
  | none => some ([], cs)
  | some cs => do
      let (ns, cs) := sequence numeral 2 cs
      let cs ← after? ")" cs
      return (ns, cs)

def typeOf (w : List Char) (ns : List Nat) : CastType :=
  if w = "BOOLEAN".toList then .boolean
  else if w = "DATE".toList then .date
  else if w = "NUMBER".toList then
    match ns with
    | [length] => .numberOf length
    | [length, precision] => .numberWith length precision
    | _ => .number
  else if w = "STRING".toList then
    match ns with
    | [length] => .stringOf length
    | _ => .string
  else .table (String.ofList w)

def castType (cs : List Char) : Option (CastType × List Char) := do
  let (w, cs) ← path cs
  let (ns, cs) ← lengths cs
  return (typeOf w ns, cs)

/-- Takes one more character of a path: a point completes a field of the table read so far. -/
def fieldStep (s : Expr × List Char) (c : Char) : Expr × List Char :=
  if c = '.' then (.field s.1 ⟨String.ofList s.2⟩, []) else (s.1, s.2 ++ [c])

/-- The field at the end of a path that begins at the given table. -/
def fieldAt (table : Expr) (w : List Char) : Expr :=
  let s := w.foldl fieldStep (table, [])
  .field s.1 ⟨String.ofList s.2⟩

/-- Reads the fields that may follow a reference to a row. -/
def fieldsOf (table : Expr) (cs : List Char) : Option (Expr × List Char) := do
  let (w, cs) ← optional "." path cs
  match w with
  | none => return (table, cs)
  | some w => return (fieldAt table w, cs)

/-! ## Phrases -/

inductive Phrase where
  | expr (e : Expr)
  | condition (c : Condition)

def expression (item : List Char → Option (Phrase × List Char)) (cs : List Char) :
    Option (Expr × List Char) :=
  match item cs with
  | some (.expr e, cs) => some (e, cs)
  | _ => none

def condition (item : List Char → Option (Phrase × List Char)) (cs : List Char) :
    Option (Condition × List Char) :=
  match item cs with
  | some (.condition c, cs) => some (c, cs)
  | _ => none

/-- The negative of an expression; a sign in front of a number belongs to the number. -/
def minus (e : Expr) : Expr :=
  match e with
  | .literal (.constant (.string s) _ _) =>
      if s.toList.head?.any Char.isDigit then .literal (textual ("-" ++ s)) else .negate e
  | _ => .negate e

section Inside

/- The reader of the phrases inside, and a bound for the lengths of lists. -/
variable (inside : List Char → Option (Phrase × List Char)) (n : Nat)

def branches : Nat → List Char → Option (List (Condition × Expr) × List Char)
  | 0, _ => none
  | n + 1, cs =>
      match after? " WHEN " cs with
      | none => some ([], cs)
      | some cs => do
          let (test, cs) ← condition inside cs
          let cs ← after? " THEN " cs
          let (value, cs) ← expression inside cs
          let (rest, cs) ← branches n cs
          return ((test, value) :: rest, cs)

/-- Reads a CASE after its first word. -/
def caseBody (cs : List Char) : Option (Expr × List Char) := do
  let (bs, cs) ← branches inside n cs
  let cs ← after? " ELSE " cs
  let (default, cs) ← expression inside cs
  let cs ← after? " END" cs
  return (.case bs default, cs)

/-- Reads a CAST after its parenthesis, with the fields of the row that it gives. -/
def castBody (cs : List Char) : Option (Expr × List Char) := do
  let (operand, cs) ← expression inside cs
  let cs ← after? " AS " cs
  let (type, cs) ← castType cs
  let cs ← after? ")" cs
  fieldsOf (.cast operand type) cs

def countBody (cs : List Char) : Option (Expr × List Char) :=
  match expression inside cs with
  | some (operand, cs) => do
      let cs ← after? ")" cs
      return (.count operand false, cs)
  -- neither a star nor the word DISTINCT begins an expression
  | none =>
      match after? "*)" cs with
      | some cs => some (.countRows false, cs)
      | none => do
          let cs ← after? "DISTINCT " cs
          let (operand, cs) ← expression inside cs
          let cs ← after? ")" cs
          return (.count operand true, cs)

/-- Reads what a word with an opening parenthesis begins, after the parenthesis. -/
def call (w cs : List Char) : Option (Expr × List Char) :=
  if w = "CAST".toList then castBody inside cs
  else if w = "COUNT".toList then countBody inside cs
  else if w = "DATETIME".toList then do
    let parts := cs.takeWhile (· ≠ ')')
    let cs ← after? ")" (cs.dropWhile (· ≠ ')'))
    return (.literal (textual ("DATETIME(" ++ String.ofList parts ++ ")")), cs)
  else
    match Aggregate.all.find? (·.text.toList == w), Function.all.find? (·.text.toList == w) with
    | some func, _ => do
        let (operand, cs) ← expression inside cs
        let cs ← after? ")" cs
        return (.aggregate func operand, cs)
    | none, some func => do
        let (args, cs) := sequence (expression inside) n cs
        let cs ← after? ")" cs
        return (.call func args, cs)
    | none, none => none

def notBody (cs : List Char) : Option (Condition × List Char) := do
  let cs ← after? " (" cs
  let (operand, cs) ← condition inside cs
  let cs ← after? ")" cs
  return (.not operand, cs)

/-- Reads what a word without a parenthesis begins, after the word. -/
def bare (w cs : List Char) : Option (Phrase × List Char) :=
  if w = "CASE".toList then do
    let (e, cs) ← caseBody inside n cs
    return (.expr e, cs)
  else if w = "NOT".toList then do
    let (c, cs) ← notBody inside cs
    return (.condition c, cs)
  else if w.head?.any Char.isDigit || constantWords.contains (String.ofList w) then
    some (.expr (.literal (textual (String.ofList w))), cs)
  else if w.isEmpty || printedWords.contains (String.ofList w) then none
  else some (.expr (fieldAt .defaultTable w), cs)

def worded (cs : List Char) : Option (Phrase × List Char) := do
  let (w, cs) ← path cs
  match after? "(" cs with
  | some cs =>
      let (e, cs) ← call inside n w cs
      return (.expr e, cs)
  | none => bare inside n w cs

/-- Reads what may stand beside a link. -/
def operand : List Char → Option (Phrase × List Char)
  | '(' :: cs => do
      let (p, cs) ← inside cs
      let cs ← after? ")" cs
      return (p, cs)
  | '"' :: cs => do
      let (s, cs) ← stringConstant ('"' :: cs)
      return (.expr (.literal (textual (Text.quote s))), cs)
  -- the sign of a number is seen to be one only when the number has been read
  | '-' :: cs =>
      match operand cs with
      | some (.expr e, cs) => some (.expr (minus e), cs)
      | _ => none
  | '&' :: cs => do
      let (w, cs) ← path cs
      return (.expr (.param ⟨String.ofList w⟩), cs)
  | cs => worded inside n cs

end Inside

/-! ## Links -/

/-- What may follow the first operand of a phrase. -/
inductive Link where
  | arith (op : Arith)
  | between (positive : Bool)
  | inList (positive hierarchy : Bool)
  | isNull (positive : Bool)
  | like (positive : Bool)
  | logic (op : Connective)
  | refs
  | relation (op : Relation)

namespace Link

def text : Link → String
  | arith op => " " ++ op.token ++ " "
  | between positive => negation positive ++ " BETWEEN "
  | inList positive hierarchy =>
      negation positive ++ " IN " ++ (if hierarchy then "HIERARCHY " else "") ++ "("
  | isNull positive => if positive then " IS NULL" else " IS NOT NULL"
  | like positive => negation positive ++ " LIKE "
  | logic op => " " ++ op.keyword ++ " "
  | refs => " REFS "
  | relation op => " " ++ op.token ++ " "

def all : List Link :=
  Arith.all.map arith ++ Relation.all.map relation ++ Connective.all.map logic ++
    [between true, between false, inList true true, inList true false, inList false true,
      inList false false, isNull true, isNull false, like true, like false, refs]

end Link

/-- The link at the beginning, and what follows it. -/
def link? (cs : List Char) : Option (Link × List Char) :=
  Link.all.findSome? fun l => (after? l.text cs).map (l, ·)

section Inside

variable (inside : List Char → Option (Phrase × List Char)) (n : Nat)

def complete : Phrase → Link → List Char → Option (Phrase × List Char)
  | .expr lhs, .arith op, cs => do
      let (rhs, cs) ← expression (operand inside n) cs
      return (.expr (.arith op lhs rhs), cs)
  | .expr lhs, .relation op, cs => do
      let (rhs, cs) ← expression (operand inside n) cs
      return (.condition (.relation lhs op rhs), cs)
  | .condition lhs, .logic op, cs => do
      let (rhs, cs) ← condition (operand inside n) cs
      return (.condition (.logic lhs op rhs), cs)
  | .expr e, .between positive, cs => do
      let (start, cs) ← expression (operand inside n) cs
      let cs ← after? " AND " cs
      let (stop, cs) ← expression (operand inside n) cs
      return (.condition (.between e start stop positive), cs)
  | .expr e, .inList positive hierarchy, cs => do
      let (values, cs) := sequence (expression inside) n cs
      let cs ← after? ")" cs
      return (.condition (.inList e values positive hierarchy), cs)
  | .expr e, .isNull positive, cs => some (.condition (.isNull e positive), cs)
  | .expr e, .like positive, cs => do
      let (pattern, cs) ← stringConstant cs
      let (escape, cs) ← optional " ESCAPE " stringConstant cs
      return (.condition (.like e pattern (escape.bind (·.toList.head?)) positive), cs)
  | .expr e, .refs, cs => do
      let (table, cs) ← path cs
      return (.condition (.refs e (String.ofList table)), cs)
  | _, _, _ => none

def phraseBody (cs : List Char) : Option (Phrase × List Char) := do
  let (p, cs) ← operand inside n cs
  match link? cs with
  | none => return (p, cs)
  | some (l, cs) => complete inside n p l cs

end Inside

/-- Reads a phrase that is nested less deeply than the bound. -/
def phrase : Nat → List Char → Option (Phrase × List Char)
  | 0, _ => none
  | n + 1, cs => phraseBody (phrase n) n cs

/-! ## Queries -/

def sortKey (n : Nat) (cs : List Char) : Option (SortKey × List Char) := do
  let (e, cs) ← expression (phrase n) cs
  match after? " DESC" cs with
  | none => return (⟨e, .ascending⟩, cs)
  | some cs => return (⟨e, .descending⟩, cs)

def columns (n : Nat) (cs : List Char) : List Expr × List Char :=
  match after? "*" cs with
  | some cs => ([.allColumns], cs)
  | none => sequence (expression (phrase n)) n cs

/-- Reads the number of rows and the blank after it. -/
def topRows (cs : List Char) : Option (Nat × List Char) := do
  let (top, cs) ← numeral cs
  let cs ← after? " " cs
  return (top, cs)

/-- Reads the columns of a query and how many rows of them are wanted. -/
def selection (n : Nat) (cs : List Char) : Option (Select × List Char) := do
  let cs ← after? "SELECT " cs
  let (distinct, cs) ← optional "DISTINCT " (fun cs => some ((), cs)) cs
  let (top, cs) ← optional "TOP " topRows cs
  let (es, cs) := columns n cs
  return (⟨es, distinct.isSome, top⟩, cs)

def query (n : Nat) (cs : List Char) : Option (Query × List Char) := do
  let (select, cs) ← selection n cs
  let (source, cs) ← optional " FROM " path cs
  let (filter, cs) ← optional " WHERE " (condition (phrase n)) cs
  let (order, cs) ← optional " ORDER BY " (fun cs => some (sequence (sortKey n) n cs)) cs
  return (⟨select, source.map String.ofList, filter, order⟩, cs)

end Inquiry.Statement
