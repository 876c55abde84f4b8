/-!
# Dates and times

Dates of the Gregorian calendar, extended to the years before it, and times of day to the nanosecond.
A second may have a further thousand million nanoseconds. After second 59 they are a leap second. They
can stand after any other second as well, though no clock shows them there and a time is not made so
from its parts.
-/

namespace Inquiry

namespace Calendar

/-- Whether the year has a 29th of February. -/
def isLeap (year : Int) : Bool :=
  year % 4 == 0 && (year % 100 != 0 || year % 400 == 0)

/-- The number of days of a month. -/
def monthLength (year : Int) (month : Nat) : Nat :=
  if month = 2 then if isLeap year then 29 else 28
  else if month = 4 || month = 6 || month = 9 || month = 11 then 30
  else 31

/-- Whether the day exists, in the years that are covered. -/
def isDate (year : Int) (month day : Nat) : Bool :=
  -262143 ≤ year && year ≤ 262142 && 1 ≤ month && month ≤ 12 && 1 ≤ day &&
    day ≤ monthLength year month

/-- The nanoseconds of a second. -/
def nanos : Nat := 1000000000

/-- Whether a time of day may have these parts. -/
def isTime (hour minute second nanosecond : Nat) : Bool :=
  hour < 24 && minute < 60 && second < 60 && nanosecond < 2 * nanos

/-- Whether a second has no more nanoseconds than a clock shows: only the last one may be a leap
second. -/
def isShown (second nanosecond : Nat) : Bool := nanosecond < nanos || second == 59

end Calendar

/-- A day. -/
structure Date where
  year : Int
  month : Nat
  day : Nat
  valid : Calendar.isDate year month day = true
  deriving DecidableEq

/-- A time of day. -/
structure Time where
  hour : Nat
  minute : Nat
  second : Nat
  nanosecond : Nat
  valid : Calendar.isTime hour minute second nanosecond = true
  deriving DecidableEq

/-- A day and a time of day. -/
structure DateTime where
  date : Date
  time : Time
  deriving DecidableEq

namespace Date

/-- The day with the given parts, if it exists. -/
def ofParts? (year : Int) (month day : Nat) : Option Date :=
  if h : Calendar.isDate year month day = true then some ⟨year, month, day, h⟩ else none

end Date

namespace Time

/-- The time with the given parts, if a clock shows it. -/
def ofParts? (hour minute second nanosecond : Nat) : Option Time :=
  if h : Calendar.isTime hour minute second nanosecond = true then
    if Calendar.isShown second nanosecond then some ⟨hour, minute, second, nanosecond, h⟩ else none
  else none

/-- The beginning of a day. -/
def midnight : Time := ⟨0, 0, 0, 0, by decide⟩

end Time

namespace DateTime

/-- The parts of a point in time, from the year down. -/
def parts (t : DateTime) : List Int :=
  [t.date.year, t.date.month, t.date.day, t.time.hour, t.time.minute, t.time.second,
    t.time.nanosecond]

/-- The order of two points in time. -/
def order (s t : DateTime) : Ordering :=
  compareOn parts s t

end DateTime

end Inquiry
