import Tabula.Timestamp.Basic

/-!
# Counting days

The day number of a date counts from the first of March of the year zero, so that a leap day is the
last day of its counted year. The moments of the wire format are counted from the start of the year
2000.
-/

namespace Tabula

/-- The days before the first of March of a year, from the first of March of the year zero. -/
def daysBeforeYear (year : Int) : Int := 365 * year + year / 4 - year / 100 + year / 400

/-- The days before a month, in a year that begins with March as the month zero. -/
def daysBeforeMonth (month : Nat) : Nat := (153 * month + 2) / 5

/-- The day number of a date. -/
def dayNumber (year : Int) (month day : Nat) : Int :=
  let (y, m) := if month ≤ 2 then (year - 1, month + 9) else (year, month - 3)
  daysBeforeYear y + daysBeforeMonth m + day - 1

/-- The date of a day number. -/
def dateOfNumber (n : Int) : Int × Nat × Nat :=
  let era := n / 146097
  let doe := (n % 146097).toNat
  let yoe := (doe - doe / 1460 + doe / 36524 - doe / 146096) / 365
  let doy := doe - (365 * yoe + yoe / 4 - yoe / 100)
  let m := (5 * doy + 2) / 153
  let day := doy - daysBeforeMonth m + 1
  let y : Int := era * 400 + yoe
  if m < 10 then (y, m + 3, day) else (y + 1, m - 9, day)

/-- The day number of the first of January 2000. -/
def millenniumDay : Int := dayNumber 2000 1 1

namespace Timestamp

/-- The days from the first of January 2000 to the day of a timestamp. -/
def daysSince2000 (t : Timestamp) : Int := dayNumber t.year t.month t.day - millenniumDay

/-- The nanoseconds from the start of the year 2000; a leap second runs on into the next minute. -/
def nanosSince2000 (t : Timestamp) : Int :=
  ((t.daysSince2000 * 24 + t.hour) * 60 + t.minute) * 60000000000 +
    t.second * 1000000000 + t.nano

/-- The whole microseconds from the start of the year 2000, cut toward it. -/
def microsSince2000 (t : Timestamp) : Int := t.nanosSince2000.tdiv 1000

/-- Midnight of the day that many days after the first of January 2000, if it is on the
calendar. -/
def ofDaysSince2000? (days : Int) : Option Timestamp :=
  let (year, month, day) := dateOfNumber (days + millenniumDay)
  ofFields? year month day 0 0 0 0

/-- The moment that many microseconds after the start of the year 2000, if it is on the
calendar. -/
def ofMicrosSince2000? (micros : Int) : Option Timestamp :=
  let (year, month, day) := dateOfNumber (micros / 86400000000 + millenniumDay)
  let rest := (micros % 86400000000).toNat
  ofFields? year month day (rest / 3600000000) (rest / 60000000 % 60) (rest / 1000000 % 60)
    (rest % 1000000 * 1000)

end Timestamp

example : dateOfNumber (dayNumber 2000 2 29) = (2000, 2, 29) := by decide
example : dateOfNumber (dayNumber (-1) 12 31) = (-1, 12, 31) := by decide

end Tabula
