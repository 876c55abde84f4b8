import Inquiry.Lower.Request
import Inquiry.Statement.Render

/-!
# Compilation

A compiler has a mapping and a stem for parameter names. It compiles a request into a command, the text
of a query with its parameters, and a reader for the rows that the query returns.
-/

namespace Inquiry

open Lower (Parameter Parameters)

/-- The text of a query, or of a condition, with its parameters. -/
structure Command where
  text : String
  params : List Parameter

/-- The value of the parameter with the given name. -/
def Command.param? (c : Command) (name : String) : Option Value :=
  (c.params.find? (·.name == name)).map (·.value)

/-- Whether two commands have the same text and the same parameters in the same order. -/
def Command.same (a b : Command) : Bool :=
  a.text == b.text &&
    Value.sameFields (a.params.map fun p => (p.name, p.value))
      (b.params.map fun p => (p.name, p.value))

/-- A command with the reader for its rows. A command for a single value has none. -/
structure Compiled where
  command : Command
  reader : Option Reader

/-- Whether the command is for a single value. -/
def Compiled.isScalar (c : Compiled) : Bool := c.reader.isNone

/-- Whether two results have the same command and the same reader. -/
def Compiled.same (a b : Compiled) : Bool := a.command.same b.command && a.reader == b.reader

/-- A mapping and a stem for parameter names. -/
structure Compiler where
  mapping : Mapping
  stem : String

namespace Compiler

/-- The compiler without records and with the usual stem. -/
def default : Compiler := ⟨.empty, Parameters.defaultStem⟩

/-- Compiles a request. -/
def compile (c : Compiler) (r : Request) : Except Error Compiled :=
  match Lower.request c.mapping r (Parameters.start c.stem) with
  | (.ok (query, reader), ps) => .ok ⟨⟨query.render, ps.entries⟩, reader⟩
  | (.error e, _) => .error e

/-- Compiles a predicate into a condition. -/
def compileCondition (c : Compiler) (predicate : Host.Expr) : Except Error Command :=
  match Lower.condition c.mapping predicate (Parameters.start c.stem) with
  | (.ok condition, ps) => .ok ⟨condition.render, ps.entries⟩
  | (.error e, _) => .error e

/-- The compiler as diagnostics show it. -/
def text (c : Compiler) : String :=
  "Compiler \x7b parameter_prefix: " ++ Text.escapeString c.stem ++ ", .. \x7d"

end Compiler

end Inquiry
