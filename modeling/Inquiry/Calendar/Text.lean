import Inquiry.Calendar.Basic
import Inquiry.Text.Blank
import Inquiry.Number.Integer
import Inquiry.Number.Power

/-!
# Text of dates

A point in time is written as `2024-03-09T14:05:00`. Years from 0 to 9999 have four digits; other
years have a sign and at least four digits. A leap second is second 60.

Reading allows blanks before each number and numbers with fewer digits; a year with a sign may have
any number of digits. A text that is not a whole point in time is read as a day and means its
beginning.
-/

namespace Inquiry.Calendar

/-! ## Writing -/

/-- A number with at least the given number of digits. -/
def padded (width n : Nat) : List Char :=
  let ds := Nat.toDigits 10 n
  List.replicate (width - ds.length) '0' ++ ds

/-- A year. -/
def yearText (year : Int) : List Char :=
  if 0 ≤ year && year ≤ 9999 then padded 4 year.natAbs
  else if year < 0 then '-' :: padded 4 year.natAbs
  else '+' :: padded 4 year.natAbs

/-- A day. -/
def dateText (d : Date) : List Char :=
  yearText d.year ++ '-' :: (padded 2 d.month ++ '-' :: padded 2 d.day)

/-- A time of day to the second. -/
def timeText (t : Time) : List Char :=
  padded 2 t.hour ++ ':' :: (padded 2 t.minute ++ ':' :: padded 2 (t.second + t.nanosecond / nanos))

/-- The fraction of a second, with as many groups of three digits as it needs. -/
def fractionText (nanosecond : Nat) : List Char :=
  let n := nanosecond % nanos
  if n = 0 then []
  else if n % 1000000 = 0 then '.' :: padded 3 (n / 1000000)
  else if n % 1000 = 0 then '.' :: padded 6 (n / 1000)
  else '.' :: padded 9 n

/-! ## Reading -/

/-- Why a text is not read as a date. -/
inductive Fault where
  | tooShort
  | invalid
  | outOfRange
  | tooLong
  deriving DecidableEq

namespace Fault

/-- The fault in words. -/
def message : Fault → String
  | tooShort => "premature end of input"
  | invalid => "input contains invalid characters"
  | outOfRange => "input is out of range"
  | tooLong => "trailing input"

/-- The name under which the fault is outlined. -/
def label : Fault → String
  | tooShort => "TooShort"
  | invalid => "Invalid"
  | outOfRange => "OutOfRange"
  | tooLong => "TooLong"

end Fault

/-- Reads a number from the digits at the front of `cs`, of which `digits` are to be taken. -/
def readNumber (digits cs : List Char) : Except Fault (Nat × List Char) :=
  if cs.isEmpty then .error .tooShort
  else if digits.isEmpty then .error .invalid
  else
    let n := Nat.ofDigitChars 10 digits 0
    if n < Number.twoTo 63 then .ok (n, cs.drop digits.length) else .error .outOfRange

/-- Reads a number of any length. -/
def readLong (cs : List Char) : Except Fault (Nat × List Char) :=
  readNumber (cs.takeWhile Char.isDigit) cs

/-- Reads a number of at most `width` digits. -/
def readShort (width : Nat) (cs : List Char) : Except Fault (Nat × List Char) :=
  readNumber ((cs.take width).takeWhile Char.isDigit) cs

/-- Reads the digits of a year after its sign. -/
def readSignedYear (cs : List Char) : Except Fault (Int × List Char) :=
  match cs with
  | '-' :: rest => (readLong rest).map fun r => (-(r.1 : Int), r.2)
  | '+' :: rest => (readLong rest).map fun r => ((r.1 : Int), r.2)
  | _ => (readShort 4 cs).map fun r => ((r.1 : Int), r.2)

/-- Reads a year. -/
def readYear (cs : List Char) : Except Fault (Int × List Char) := do
  let (year, rest) ← readSignedYear (Text.trimStart cs)
  if -(Number.twoTo 31 : Int) ≤ year && year < Number.twoTo 31 then .ok (year, rest) else .error .outOfRange

/-- Reads a number of at most two digits between two bounds. -/
def readField (least most : Nat) (cs : List Char) : Except Fault (Nat × List Char) := do
  let (n, rest) ← readShort 2 (Text.trimStart cs)
  if least ≤ n && n ≤ most then .ok (n, rest) else .error .outOfRange

/-- Reads a separator. -/
def readMark (mark : Char) : List Char → Except Fault (List Char)
  | [] => .error .tooShort
  | c :: rest => if c = mark then .ok rest else .error .invalid

/-- Reads year, month and day. -/
def readDay (cs : List Char) : Except Fault ((Int × Nat × Nat) × List Char) := do
  let (year, cs) ← readYear cs
  let cs ← readMark '-' cs
  let (month, cs) ← readField 1 12 cs
  let cs ← readMark '-' cs
  let (day, cs) ← readField 1 31 cs
  .ok ((year, month, day), cs)

/-- Reads hour, minute and second. -/
def readClock (cs : List Char) : Except Fault ((Nat × Nat × Nat) × List Char) := do
  let (hour, cs) ← readField 0 23 cs
  let cs ← readMark ':' cs
  let (minute, cs) ← readField 0 59 cs
  let cs ← readMark ':' cs
  let (second, cs) ← readField 0 60 cs
  .ok ((hour, minute, second), cs)

/-- The text ends here. -/
def readEnd : List Char → Except Fault Unit
  | [] => .ok ()
  | _ :: _ => .error .tooLong

/-- The day with the given parts. -/
def dayOf (parts : Int × Nat × Nat) : Except Fault Date :=
  match Date.ofParts? parts.1 parts.2.1 parts.2.2 with
  | some d => .ok d
  | none => .error .outOfRange

/-- The time with the given parts, where second 60 is a leap second. -/
def clockOf (parts : Nat × Nat × Nat) : Except Fault Time :=
  let leap := parts.2.2 == 60
  match Time.ofParts? parts.1 parts.2.1 (if leap then 59 else parts.2.2) (if leap then nanos else 0)
    with
  | some t => .ok t
  | none => .error .outOfRange

/-- Reads a whole point in time. -/
def readMoment (cs : List Char) : Except Fault DateTime := do
  let (day, cs) ← readDay cs
  let cs ← readMark 'T' cs
  let (clock, cs) ← readClock cs
  readEnd cs
  let date ← dayOf day
  let time ← clockOf clock
  .ok ⟨date, time⟩

/-- Reads a day. -/
def readDate (cs : List Char) : Except Fault DateTime := do
  let (day, cs) ← readDay cs
  readEnd cs
  let date ← dayOf day
  .ok ⟨date, .midnight⟩

end Inquiry.Calendar

namespace Inquiry.DateTime

open Calendar

/-- The point in time to the second. -/
def text (t : DateTime) : String :=
  String.ofList (dateText t.date ++ 'T' :: timeText t.time)

/-- The point in time as diagnostics show it, with the fraction of its second. -/
def shown (t : DateTime) : String :=
  t.text ++ String.ofList (fractionText t.time.nanosecond)

/-- Reads a point in time, or else a day. -/
def read (cs : List Char) : Except Fault DateTime :=
  match readMoment cs with
  | .ok t => .ok t
  | .error _ => readDate cs

end Inquiry.DateTime
