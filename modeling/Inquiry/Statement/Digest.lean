import Inquiry.Statement.Query
import Inquiry.Value.Digest

/-!
# Digests of statements

What statements feed a hash function, part by part and in the order of their parts. Names feed their
lower-case form, one character after the other, and an end mark; all other texts feed as they are.
-/

namespace Inquiry.Statement

open Digest (Word)

/-- What a name feeds a hash function. -/
def Name.digest (n : Name) : List Word := n.folded.map Digest.char ++ [.number 8 0xff]

/-- What a literal feeds a hash function: its value and its text. -/
def Literal.digest (d : Digester) (l : Literal) : List Word := l.value.digest d ++ [.text l.text]

/-- What a type feeds a hash function. Length and precision of a number may be missing. -/
def CastType.digest : CastType → List Word
  | .boolean => [.form 0]
  | .date => [.form 1]
  | .number => [.form 2, .form 0]
  | .numberOf length => [.form 2, .form 1, .number 32 length, .form 0]
  | .numberWith length precision =>
      [.form 2, .form 1, .number 32 length, .form 1, .number 32 precision]
  | .string => [.form 3, .form 0]
  | .stringOf length => [.form 3, .form 1, .number 32 length]
  | .table name => [.form 4, .text name]

/-- What several names feed a hash function. -/
def digestNames (names : List Name) : List Word :=
  .length names.length :: names.flatMap Name.digest

mutual

/-- What an expression feeds a hash function. -/
def Expr.digest (d : Digester) : Expr → List Word
  | .aggregate func operand => .form 0 :: Digest.member Aggregate.all func :: operand.digest d
  | .allColumns => [.form 1]
  | .arith op lhs rhs => .form 2 :: Digest.member Arith.all op :: (lhs.digest d ++ rhs.digest d)
  | .case branches default =>
      .form 3 :: .length branches.length :: (digestBranches d branches ++ default.digest d)
  | .cast operand type => .form 4 :: (operand.digest d ++ type.digest)
  | .columnGroup table fields => .form 5 :: (table.digest d ++ digestNames fields)
  | .count operand distinct => .form 6 :: .form 1 :: (operand.digest d ++ [Digest.flag distinct])
  | .countRows distinct => [.form 6, .form 0, Digest.flag distinct]
  | .defaultTable => [.form 7]
  | .field table name => .form 8 :: (table.digest d ++ name.digest)
  | .call func args =>
      .form 9 :: Digest.member Function.all func :: .length args.length :: digestExprs d args
  | .literal l => .form 10 :: l.digest d
  | .negate operand => .form 11 :: operand.digest d
  | .param name => .form 12 :: name.digest

/-- What a condition feeds a hash function. -/
def Condition.digest (d : Digester) : Condition → List Word
  | .between operand start stop positive =>
      .form 0 :: (operand.digest d ++ start.digest d ++ stop.digest d ++ [Digest.flag positive])
  | .inList operand values positive hierarchy =>
      .form 1 :: (operand.digest d ++ .length values.length :: digestExprs d values ++
        [Digest.flag positive, Digest.flag hierarchy])
  | .isNull operand positive => .form 2 :: (operand.digest d ++ [Digest.flag positive])
  | .like operand pattern escape positive =>
      .form 3 :: (operand.digest d ++ .text pattern ::
        Digest.option (fun c => [Digest.char c]) escape ++ [Digest.flag positive])
  | .logic lhs op rhs =>
      .form 4 :: (lhs.digest d ++ Digest.member Connective.all op :: rhs.digest d)
  | .not operand => .form 5 :: operand.digest d
  | .refs operand table => .form 6 :: (operand.digest d ++ [.text table])
  | .relation lhs op rhs =>
      .form 7 :: (lhs.digest d ++ Digest.member Relation.all op :: rhs.digest d)

def digestExprs (d : Digester) : List Expr → List Word
  | [] => []
  | e :: rest => e.digest d ++ digestExprs d rest

def digestBranches (d : Digester) : List (Condition × Expr) → List Word
  | [] => []
  | (test, value) :: rest => test.digest d ++ value.digest d ++ digestBranches d rest

end

/-- What a column list feeds a hash function. -/
def Select.digest (d : Digester) (s : Select) : List Word :=
  Digest.flag s.distinct :: (Digest.option (fun n => [.number 64 n]) s.top ++
    .length s.columns.length :: digestExprs d s.columns)

/-- What a sort key feeds a hash function. -/
def SortKey.digest (d : Digester) (k : SortKey) : List Word :=
  k.expr.digest d ++ [Digest.member Direction.all k.direction]

/-- What a query feeds a hash function. -/
def Query.digest (d : Digester) (q : Query) : List Word :=
  q.select.digest d ++ Digest.option (fun name => [.text name]) q.source ++
    Digest.option (Condition.digest d) q.filter ++
    Digest.option (fun keys => .length keys.length :: keys.flatMap (SortKey.digest d)) q.order

end Inquiry.Statement
