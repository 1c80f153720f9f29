/-!
# Points of civil time

A `Timestamp` is a date of the proleptic Gregorian calendar with a time of day to the nanosecond.
The nanoseconds of a second may run past one milliard, into a leap second behind it. A leap second
belongs behind a second 59, and that is where reading a text puts it; but the nanoseconds can be set
behind any second. The proof fields keep every timestamp on the calendar and the clock;
`Timestamp.ofFields?` is the way to make one from numbers.
-/

namespace Tabula

/-- The year has a 29th of February. -/
def isLeapYear (year : Int) : Bool := year % 4 = 0 && (year % 100 ≠ 0 || year % 400 = 0)

/-- The number of days of a month. -/
def monthLength (year : Int) (month : Nat) : Nat :=
  match month with
  | 2 => if isLeapYear year then 29 else 28
  | 4 | 6 | 9 | 11 => 30
  | _ => 31

/-- A day of the calendar, within the years that are kept. -/
def isDate (year : Int) (month day : Nat) : Bool :=
  -262143 ≤ year && year ≤ 262142 && 1 ≤ month && month ≤ 12 &&
    1 ≤ day && day ≤ monthLength year month

/-- A time of day. Any second can run past one milliard nanoseconds, by less than another. -/
def isTime (hour minute second nano : Nat) : Bool :=
  hour < 24 && minute < 60 && second < 60 && nano < 2000000000

/-- A date with a time of day. -/
structure Timestamp where
  /-- the year, zero being the year before year one -/
  year : Int
  /-- the month, from one -/
  month : Nat
  /-- the day of the month, from one -/
  day : Nat
  /-- the hour of the day -/
  hour : Nat
  /-- the minute of the hour -/
  minute : Nat
  /-- the second of the minute, at most 59 -/
  second : Nat
  /-- the nanoseconds of the second, past one milliard within a leap second -/
  nano : Nat
  /-- the date is on the calendar -/
  date_ok : isDate year month day = true := by decide
  /-- the time is on the clock -/
  time_ok : isTime hour minute second nano = true := by decide
  deriving DecidableEq

namespace Timestamp

/-- The timestamp of seven numbers, if they are on the calendar and the clock. -/
def ofFields? (year : Int) (month day hour minute second nano : Nat) : Option Timestamp :=
  if hd : isDate year month day = true then
    if ht : isTime hour minute second nano = true then
      some ⟨year, month, day, hour, minute, second, nano, hd, ht⟩
    else none
  else none

/-- The fields, from the largest unit down. -/
def fields (t : Timestamp) : List Int :=
  [t.year, t.month, t.day, t.hour, t.minute, t.second, t.nano]

/-- Timestamps are ordered field by field, from the year down. -/
def compare (a b : Timestamp) : Ordering := compareOfLessAndEq a.fields b.fields

/-- The fields make the timestamp. -/
theorem ofFields?_fields (t : Timestamp) :
    ofFields? t.year t.month t.day t.hour t.minute t.second t.nano = some t := by
  simp [ofFields?, t.date_ok, t.time_ok]

end Timestamp

end Tabula
