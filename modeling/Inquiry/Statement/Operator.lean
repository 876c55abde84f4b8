/-!
# Operators and functions

The fixed vocabulary of the query language: arithmetic operators, relations, connectives, aggregates,
functions with their number of arguments, periods, and the direction of a sort.
-/

namespace Inquiry.Statement

/-- An arithmetic operator. -/
inductive Arith where
  | add
  | sub
  | mul
  | div
  deriving DecidableEq

/-- The operator as it is written. -/
def Arith.token : Arith → String
  | .add => "+"
  | .sub => "-"
  | .mul => "*"
  | .div => "/"

/-- The operator by name. -/
def Arith.label : Arith → String
  | .add => "Add"
  | .sub => "Sub"
  | .mul => "Mul"
  | .div => "Div"

/-- All of them. -/
def Arith.all : List Arith :=
  [.add, .sub, .mul, .div]

/-- A connective of conditions. -/
inductive Connective where
  | and
  | or
  deriving DecidableEq

/-- The connective as it is written. -/
def Connective.keyword : Connective → String
  | .and => "AND"
  | .or => "OR"

/-- The connective by name. -/
def Connective.label : Connective → String
  | .and => "And"
  | .or => "Or"

/-- All of them. -/
def Connective.all : List Connective := [.and, .or]

/-- A relation between two values. -/
inductive Relation where
  | eq
  | ne
  | gt
  | ge
  | lt
  | le
  deriving DecidableEq

namespace Relation

/-- The relation as it is written. -/
def token : Relation → String
  | eq => "="
  | ne => "<>"
  | gt => ">"
  | ge => ">="
  | lt => "<"
  | le => "<="

/-- The relation that holds with its operands exchanged. -/
def commute : Relation → Relation
  | eq => eq
  | ne => ne
  | gt => lt
  | ge => le
  | lt => gt
  | le => ge

/-- The relation by name. -/
def label : Relation → String
  | eq => "Eq"
  | ne => "Ne"
  | gt => "Gt"
  | ge => "Ge"
  | lt => "Lt"
  | le => "Le"

/-- All of them. -/
def all : List Relation :=
  [eq, ne, gt, ge, lt, le]

end Relation

/-- An aggregate over one operand. -/
inductive Aggregate where
  | sum
  | avg
  | min
  | max
  deriving DecidableEq

/-- The aggregate as it is written. -/
def Aggregate.text : Aggregate → String
  | .sum => "SUM"
  | .avg => "AVG"
  | .min => "MIN"
  | .max => "MAX"

/-- The aggregate by name. -/
def Aggregate.label : Aggregate → String
  | .sum => "Sum"
  | .avg => "Avg"
  | .min => "Min"
  | .max => "Max"

/-- All of them. -/
def Aggregate.all : List Aggregate :=
  [.sum, .avg, .min, .max]

/-- A function. -/
inductive Function where
  | substring
  | year
  | quarter
  | month
  | dayOfYear
  | day
  | week
  | weekDay
  | hour
  | minute
  | second
  | beginOfPeriod
  | endOfPeriod
  | isNull
  deriving DecidableEq

namespace Function

/-- The function as it is written. -/
def text : Function → String
  | substring => "SUBSTRING"
  | year => "YEAR"
  | quarter => "QUARTER"
  | month => "MONTH"
  | dayOfYear => "DAYOFYEAR"
  | day => "DAY"
  | week => "WEEK"
  | weekDay => "WEEKDAY"
  | hour => "HOUR"
  | minute => "MINUTE"
  | second => "SECOND"
  | beginOfPeriod => "BEGINOFPERIOD"
  | endOfPeriod => "ENDOFPERIOD"
  | isNull => "ISNULL"

/-- The number of arguments. -/
def arity : Function → Nat
  | substring => 3
  | beginOfPeriod | endOfPeriod | isNull => 2
  | _ => 1

/-- The function by name. -/
def label : Function → String
  | substring => "Substring"
  | year => "Year"
  | quarter => "Quarter"
  | month => "Month"
  | dayOfYear => "DayOfYear"
  | day => "Day"
  | week => "Week"
  | weekDay => "WeekDay"
  | hour => "Hour"
  | minute => "Minute"
  | second => "Second"
  | beginOfPeriod => "BeginOfPeriod"
  | endOfPeriod => "EndOfPeriod"
  | isNull => "IsNull"

/-- All of them. -/
def all : List Function :=
  [substring, year, quarter, month, dayOfYear, day, week, weekDay, hour, minute, second,
    beginOfPeriod, endOfPeriod, isNull]

end Function

/-- A period of time. -/
inductive Period where
  | minute
  | hour
  | day
  | week
  | tenDays
  | month
  | quarter
  | halfYear
  | year
  deriving DecidableEq

/-- The period as it is written. -/
def Period.keyword : Period → String
  | .minute => "MINUTE"
  | .hour => "HOUR"
  | .day => "DAY"
  | .week => "WEEK"
  | .tenDays => "TENDAYS"
  | .month => "MONTH"
  | .quarter => "QUARTER"
  | .halfYear => "HALFYEAR"
  | .year => "YEAR"

/-- The period by name. -/
def Period.label : Period → String
  | .minute => "Minute"
  | .hour => "Hour"
  | .day => "Day"
  | .week => "Week"
  | .tenDays => "TenDays"
  | .month => "Month"
  | .quarter => "Quarter"
  | .halfYear => "HalfYear"
  | .year => "Year"

/-- All of them. -/
def Period.all : List Period :=
  [.minute, .hour, .day, .week, .tenDays, .month, .quarter, .halfYear, .year]

/-- The direction of a sort. -/
inductive Direction where
  | ascending
  | descending
  deriving DecidableEq

/-- Whether the sort is from the greatest down. -/
def Direction.isDescending : Direction → Bool
  | .ascending => false
  | .descending => true

/-- The direction by name. -/
def Direction.label : Direction → String
  | .ascending => "Asc"
  | .descending => "Desc"

/-- All of them. -/
def Direction.all : List Direction := [.ascending, .descending]

end Inquiry.Statement
