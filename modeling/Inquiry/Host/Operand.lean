import Inquiry.Host.Outline
import Inquiry.Number.Decimal.Quotient
import Inquiry.Value.Convert

/-!
# Constant arithmetic

Numeric constants are widened before they are combined: integers to 64 bits, floating-point numbers to
64 bits. Of two operands of different kinds, a decimal makes both decimals, unless the other is a
floating-point number without a decimal; a floating-point number makes an integer one too.
-/

namespace Inquiry.Host

open Statement (Arith Relation)

/-- Why constants cannot be combined. -/
inductive ArithmeticFault where
  | divisionByZero
  | integerOverflow (a : Int64) (op : Arith) (b : Int64)
  | decimalOverflow (a : Decimal) (op : Arith) (b : Decimal)
  | negationOverflow (n : Int64)
  /-- The operator is not one of arithmetic. -/
  | notArithmetic (op : Operator)

namespace ArithmeticFault

/-- The fault in words. -/
def message : ArithmeticFault → String
  | divisionByZero => "division by zero in constant expression"
  | integerOverflow a op b =>
      "integer overflow in constant expression; " ++ toString a.toInt ++ " " ++
        (Operator.arith op).label ++ " " ++ toString b.toInt
  | decimalOverflow a op b =>
      "decimal overflow or division by zero; " ++ a.text ++ " " ++ (Operator.arith op).label ++
        " " ++ b.text
  | negationOverflow n => "integer overflow negating " ++ toString n.toInt
  | notArithmetic op => "operator " ++ op.label ++ " does not apply to numbers"

/-- The fault as an error. -/
def error (f : ArithmeticFault) : Error := .raised (.plain f.message)

end ArithmeticFault

/-- A numeric constant, widened. -/
inductive Operand where
  | whole (n : Int64)
  | float (x : Double)
  | decimal (d : Decimal)

namespace Operand

/-- The operand for a numeric value. -/
def ofValue? : Value → Option Operand
  | .decimal d => some (.decimal d)
  | .single x => some (.float x.widen)
  | .double x => some (.float x)
  | v => v.int64?.map .whole

/-- The operand as a value. -/
def toValue : Operand → Value
  | whole n => .int64 n
  | float x => .double x
  | decimal d => .decimal d

/-- The floating-point number for an operand. -/
def toDouble : Operand → Double
  | whole n => .ofInt n.toInt
  | float x => x
  | decimal d => d.toDouble

/-- The integer with the given value, if it has 64 bits. -/
def int64? (n : Int) : Option Int64 := if Value.isInt64 n then some (.ofInt n) else none

/-- Integer arithmetic; a quotient is cut off towards zero. -/
def applyWhole (a : Int64) (op : Arith) (b : Int64) : Except ArithmeticFault Int64 :=
  if op = .div && b.toInt = 0 then .error .divisionByZero
  else
    let exact := match op with
      | .add => a.toInt + b.toInt
      | .sub => a.toInt - b.toInt
      | .mul => a.toInt * b.toInt
      | .div => a.toInt.tdiv b.toInt
    match int64? exact with
    | some n => .ok n
    | none => .error (.integerOverflow a op b)

/-- Decimal arithmetic. -/
def applyDecimal (a : Decimal) (op : Arith) (b : Decimal) : Except ArithmeticFault Decimal :=
  let result := match op with
    | .add => a.add? b
    | .sub => a.sub? b
    | .mul => a.mul? b
    | .div => a.div? b
  match result with
  | some d => .ok d
  | none => .error (.decimalOverflow a op b)

/-- Floating-point arithmetic. -/
def applyFloat (a : Double) (op : Arith) (b : Double) : Double :=
  match op with
  | .add => a.add b
  | .sub => a.sub b
  | .mul => a.mul b
  | .div => a.div b

/-- Two operands of one kind. -/
inductive Pair where
  | wholes (a b : Int64)
  | floats (a b : Double)
  | decimals (a b : Decimal)

/-- Brings two operands to one kind. -/
def promote : Operand → Operand → Pair
  | whole a, whole b => .wholes a b
  | decimal a, decimal b => .decimals a b
  | whole a, decimal b => .decimals (.ofInt64 a) b
  | decimal a, whole b => .decimals a (.ofInt64 b)
  | float a, decimal b =>
      match Decimal.ofDouble? a with
      | some d => .decimals d b
      | none => .floats a b.toDouble
  | decimal a, float b =>
      match Decimal.ofDouble? b with
      | some d => .decimals a d
      | none => .floats a.toDouble b
  | float a, float b => .floats a b
  | whole a, float b => .floats (.ofInt a.toInt) b
  | float a, whole b => .floats a (.ofInt b.toInt)

/-- The result of an arithmetic operator. -/
def combine (a : Operand) (op : Arith) (b : Operand) : Except ArithmeticFault Operand :=
  match promote a b with
  | .wholes a b => (applyWhole a op b).map whole
  | .decimals a b => (applyDecimal a op b).map decimal
  | .floats a b => .ok (.float (applyFloat a op b))

/-- The result of an operator, which has to be arithmetic. -/
def apply (a : Operand) (op : Operator) (b : Operand) : Except ArithmeticFault Operand :=
  match op with
  | .arith op => a.combine op b
  | _ => .error (.notArithmetic op)

/-- The negated operand. -/
def negate : Operand → Except ArithmeticFault Operand
  | whole n =>
      match int64? (-n.toInt) with
      | some m => .ok (.whole m)
      | none => .error (.negationOverflow n)
  | float x => .ok (.float x.neg)
  | decimal d => .ok (.decimal d.neg)

/-- The order of two operands; there is none where one of them is not a number. -/
def compare? (a b : Operand) : Option Ordering :=
  match promote a b with
  | .wholes a b => some (compare a.toInt b.toInt)
  | .decimals a b => some (a.order b)
  | .floats a b => a.compare? b

end Operand

/-- The order of two constants. Null is equal to itself and unordered with everything else; values
without an order are at most equal. -/
def compareValues? (a b : Value) : Option Ordering :=
  match Operand.ofValue? a, Operand.ofValue? b with
  | some x, some y => x.compare? y
  | _, _ =>
      match a, b with
      | .null, .null => some .eq
      | .null, _ => none
      | _, .null => none
      | .string s, .string t => some (compare s t)
      | .char c, .char d => some (compare c.toNat d.toNat)
      | .bool p, .bool q => some (compare p.toNat q.toNat)
      | .dateTime s, .dateTime t => some (s.order t)
      | _, _ => if a.same b then some .eq else none

/-- Whether a relation holds between two things in the given order. -/
def holds (op : Relation) (order : Option Ordering) : Bool :=
  match op with
  | .eq => order == some .eq
  | .ne => order != some .eq
  | .gt => order == some .gt
  | .ge => order == some .gt || order == some .eq
  | .lt => order == some .lt
  | .le => order == some .lt || order == some .eq

/-- Compares two constants by an operator, which has to be a relation. -/
def compareValues (a : Value) (op : Operator) (b : Value) : Except Misuse Bool :=
  match op with
  | .relation op => .ok (holds op (compareValues? a b))
  | _ => .error (.notComparison op.label)

end Inquiry.Host
