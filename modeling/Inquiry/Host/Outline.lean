import Inquiry.Host.Expr

/-!
# Outlines of host expressions

The form in which an expression is named in an error.
-/

namespace Inquiry.Host

/-- The operator by name. -/
def Operator.label : Operator → String
  | .relation op => op.label
  | .logic .and => "AndAlso"
  | .logic .or => "OrElse"
  | .arith op => op.label
  | .coalesce => "Coalesce"

/-- All of them. -/
def Operator.all : List Operator :=
  Statement.Relation.all.map .relation ++ [.logic .and, .logic .or] ++
    Statement.Arith.all.map .arith ++ [.coalesce]

/-- The part of a date by name. -/
def DatePart.label : DatePart → String
  | .year => "Year"
  | .quarter => "Quarter"
  | .month => "Month"
  | .dayOfYear => "DayOfYear"
  | .day => "Day"
  | .week => "Week"
  | .weekDay => "WeekDay"
  | .hour => "Hour"
  | .minute => "Minute"
  | .second => "Second"

/-- All of them. -/
def DatePart.all : List DatePart :=
  [.year, .quarter, .month, .dayOfYear, .day, .week, .weekDay, .hour, .minute, .second]

/-- A method as diagnostics show it. -/
def Method.outline : Method → Outline
  | .getValue kind => .wrap "GetValue" (.optional (kind.map fun k => .word k.name))
  | .toNumber => .word "ToNumber"
  | .toDecimal => .word "ToDecimal"
  | .toText => .word "ToString"
  | .toRecord id => .wrap "ToRecord" (.word (recordText id))
  | .substring => .word "Substring"
  | .datePart part => .wrap "DatePart" (.word part.label)
  | .beginOfPeriod period => .wrap "BeginOfPeriod" (.word (period.label))
  | .endOfPeriod period => .wrap "EndOfPeriod" (.word (period.label))
  | .isIn => .word "In"
  | .inHierarchy => .word "InHierarchy"
  | .notIn => .word "NotIn"
  | .contains => .word "Contains"
  | .like => .word "Like"
  | .notLike => .word "NotLike"
  | .between => .word "Between"
  | .notBetween => .word "NotBetween"

/-- The methods that have no part of their own. -/
def Method.plain : List Method :=
  [.toNumber, .toDecimal, .toText, .substring, .isIn, .inHierarchy, .notIn, .contains, .like,
    .notLike, .between, .notBetween]

/-- The number of a member as diagnostics show it. -/
def MemberId.text (id : MemberId) : String :=
  "MemberId(" ++ toString id.record ++ "/" ++ toString id.index ++ ")"

/-- A member access as diagnostics show it. -/
def MemberRef.outline : MemberRef → Outline
  | .field id => .wrap "Field" (.word id.text)
  | .datePart part => .wrap "DatePart" (.word part.label)

mutual
/-- An expression as diagnostics show it. -/
def Expr.outline : Expr → Outline
  | .binary lhs op rhs =>
      .wrap "Binary" (.fields "ExprBinary"
        [("lhs", lhs.outline), ("op", .word op.label), ("rhs", rhs.outline)])
  | .call method args =>
      .wrap "Call" (.fields "ExprCall"
        [("method", method.outline), ("args", .items (exprOutlines args))])
  | .conditional test yes no =>
      .wrap "Conditional" (.fields "ExprConditional"
        [("test", test.outline), ("then", yes.outline), ("otherwise", no.outline)])
  | .constant value type =>
      .wrap "Constant" (.fields "ExprConstant" [("value", value.outline), ("ty", type.outline)])
  | .convert operand type =>
      .wrap "Convert" (.fields "ExprConvert" [("expr", operand.outline), ("ty", type.outline)])
  | .input type => .wrap "Input" (.fields "ExprInput" [("ty", type.outline)])
  | .member base ref type =>
      .wrap "Member" (.fields "ExprMember"
        [("base", base.outline), ("member", ref.outline), ("ty", type.outline)])
  | .construct type members =>
      .wrap "New" (.fields "ExprNew"
        [("ty", type.outline), ("members", .items (memberOutlines members))])
  | .array item items =>
      .wrap "NewArray" (.fields "ExprNewArray"
        [("item_ty", item.outline), ("items", .items (exprOutlines items))])
  | .typeIs operand record =>
      .wrap "TypeIs" (.fields "ExprTypeIs"
        [("expr", operand.outline), ("record", .word (recordText record))])
  | .not operand =>
      .wrap "Unary" (.fields "ExprUnary" [("op", .word "Not"), ("expr", operand.outline)])
  | .negate operand =>
      .wrap "Unary" (.fields "ExprUnary" [("op", .word "Negate"), ("expr", operand.outline)])

def exprOutlines : List Expr → List Outline
  | [] => []
  | e :: rest => e.outline :: exprOutlines rest

def memberOutlines : List (String × Expr) → List Outline
  | [] => []
  | (name, e) :: rest => .node "" [.text name, e.outline] :: memberOutlines rest
end

/-- An expression on one line. -/
def Expr.text (e : Expr) : String := e.outline.line

end Inquiry.Host
