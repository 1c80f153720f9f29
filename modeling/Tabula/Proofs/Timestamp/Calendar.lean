import Mathlib.Tactic.IntervalCases
import Tabula.Timestamp.Calendar

/-!
# Dates and moments by their numbers

The calendar repeats after four hundred years. A day of such an era is the day of a year, which is
one of four, in one of twenty-five runs, in one of four centuries; the last day of a year is there
in leap years only. So a date and its number determine each other, and so do a moment and its
nanoseconds, unless it lies in a leap second.

* `dateOfNumber_dayNumber`, `dayNumber_dateOfNumber`: dates and their numbers.
* `Timestamp.ofDaysSince2000?_daysSince2000`: the midnight of a day.
* `Timestamp.exists_truncated`: the moment of whole microseconds.
* `Timestamp.nanosSince2000_injective`: a moment is its nanoseconds.
-/

namespace Tabula

/-! ## Eras -/

/-- A day of an era, which begins with the first of March. -/
structure EraDay where
  /-- the century, of which the last is longer by a day -/
  century : Nat
  /-- the run of four years, of which the last is shorter by a day unless the century is longer -/
  run : Nat
  /-- the year of the run, of which the last is longer by a day -/
  year : Nat
  /-- the day of the year -/
  day : Nat
  /-- there are four centuries -/
  century_le : century ≤ 3
  /-- there are twenty-five runs -/
  run_le : run ≤ 24
  /-- there are four years -/
  year_le : year ≤ 3
  /-- there are at most 366 days -/
  day_le : day ≤ 365
  /-- the last of them is a leap day -/
  leap : day = 365 → year = 3 ∧ (run = 24 → century = 3)

namespace EraDay

/-- The number of a day in its era. -/
def number (e : EraDay) : Nat := 36524 * e.century + 1461 * e.run + 365 * e.year + e.day

/-- The number of a year in its era. -/
def yearOfEra (e : EraDay) : Nat := 100 * e.century + 4 * e.run + e.year

/-- The date of a day of an era. January and February belong to the next year. -/
def date (era : Int) (e : EraDay) : Int × Nat × Nat :=
  let y := era * 400 + e.yearOfEra
  let m := (5 * e.day + 2) / 153
  let day := e.day - daysBeforeMonth m + 1
  if m < 10 then (y, m + 3, day) else (y + 1, m - 9, day)

/-- The days of an era are numbered below its length. -/
theorem number_lt (e : EraDay) : e.number < 146097 := by
  obtain ⟨c, q, r, d, hc, hq, hr, hd, hleap⟩ := e
  simp only [number]
  omega

/-- Every number below the length of an era is a day of it. -/
theorem exists_number {n : Nat} (h : n < 146097) : ∃ e : EraDay, e.number = n := by
  have hc : min (n / 36524) 3 ≤ 3 := Nat.min_le_right _ _
  let c := min (n / 36524) 3
  let n₁ := n - 36524 * c
  let q := min (n₁ / 1461) 24
  let n₂ := n₁ - 1461 * q
  let r := min (n₂ / 365) 3
  exact ⟨⟨c, q, r, n₂ - 365 * r, by omega, by omega, by omega, by omega, by omega⟩, by
    simp only [number]; omega⟩

/-- The year is found again from the number of a day. -/
theorem yearOfEra_eq (e : EraDay) :
    (e.number - e.number / 1460 + e.number / 36524 - e.number / 146096) / 365 = e.yearOfEra := by
  obtain ⟨c, q, r, d, hc, hq, hr, hd, hleap⟩ := e
  simp only [number, yearOfEra]
  by_cases hlast : 36524 * c + 1461 * q + 365 * r + d = 146096
  · omega
  · have h1 : (36524 * c + 1461 * q + 365 * r + d) / 36524 = c := by omega
    have h2 : (36524 * c + 1461 * q + 365 * r + d) / 146096 = 0 := by omega
    have h3 : (36524 * c + 1461 * q + 365 * r + d) / 1460 =
        25 * c + q + (24 * c + q + 365 * r + d) / 1460 := by omega
    rw [h1, h2, h3]
    omega

/-- The date of a day of an era. -/
theorem dateOfNumber_number (era : Int) (e : EraDay) :
    dateOfNumber (146097 * era + e.number) = e.date era := by
  have hlt := e.number_lt
  have hera : (146097 * era + (e.number : Int)) / 146097 = era := by omega
  have hdoe : ((146097 * era + (e.number : Int)) % 146097).toNat = e.number := by omega
  have hday : e.number - (365 * e.yearOfEra + e.yearOfEra / 4 - e.yearOfEra / 100) = e.day := by
    obtain ⟨c, q, r, d, hc, hq, hr, hd, hleap⟩ := e
    simp only [number, yearOfEra]
    omega
  simp only [dateOfNumber, hera, hdoe, yearOfEra_eq, hday, date]

/-- The days before a year and the day in it make the number. -/
theorem daysBeforeYear_add (era : Int) (e : EraDay) :
    daysBeforeYear (era * 400 + e.yearOfEra) + e.day = 146097 * era + e.number := by
  obtain ⟨c, q, r, d, hc, hq, hr, hd, hleap⟩ := e
  have h4 : (era * 400 + ((100 * c + 4 * q + r : Nat) : Int)) / 4 = 100 * era + 25 * c + q := by
    omega
  have h100 : (era * 400 + ((100 * c + 4 * q + r : Nat) : Int)) / 100 = 4 * era + c := by omega
  have h400 : (era * 400 + ((100 * c + 4 * q + r : Nat) : Int)) / 400 = era := by omega
  simp only [number, yearOfEra, daysBeforeYear, h4, h100, h400]
  omega

/-- The rule of leap years. -/
theorem isLeapYear_iff {year : Int} :
    isLeapYear year ↔ year % 4 = 0 ∧ (year % 100 ≠ 0 ∨ year % 400 = 0) := by
  simp [isLeapYear]

/-- A year with a day number 365 is one whose February had a leap day. -/
theorem isLeapYear_of_day {e : EraDay} (era : Int) (h : e.day = 365) :
    isLeapYear (era * 400 + e.yearOfEra + 1) := by
  obtain ⟨hyear, hrun⟩ := e.leap h
  have hcentury := e.century_le
  have hrunle := e.run_le
  rw [isLeapYear_iff, yearOfEra, hyear]
  omega

/-- The months of a year that begins with March. -/
theorem month_spec {d : Nat} (hd : d ≤ 365) :
    (5 * d + 2) / 153 ≤ 11 ∧ daysBeforeMonth ((5 * d + 2) / 153) ≤ d := by
  simp only [daysBeforeMonth]
  omega

/-- The date of a day of an era has its number, and its month and day are on the calendar. -/
theorem day_spec {era : Int} {e : EraDay} {year : Int} {month day : Nat}
    (h : e.date era = (year, month, day)) :
    dayNumber year month day = 146097 * era + e.number ∧ 1 ≤ month ∧ month ≤ 12 ∧ 1 ≤ day ∧
      day ≤ monthLength year month := by
  have hyear := daysBeforeYear_add era e
  have hleap := isLeapYear_of_day (e := e) era
  have hd := e.day_le
  obtain ⟨hm, hbefore⟩ := month_spec hd
  simp only [date] at h
  -- from here on only the day of the year and its month matter, not where the year lies
  generalize e.day = d at *
  generalize hM : (5 * d + 2) / 153 = m at h hm hbefore
  by_cases h10 : m < 10
  · rw [if_pos h10] at h
    cases h
    have hnot : ¬m + 3 ≤ 2 := by omega
    simp only [dayNumber, if_neg hnot, Nat.add_sub_cancel]
    refine ⟨by omega, by omega, by omega, by omega, ?_⟩
    interval_cases m <;> simp only [daysBeforeMonth, monthLength] at * <;> omega
  · rw [if_neg h10] at h
    cases h
    have hle : m - 9 ≤ 2 := by omega
    simp only [dayNumber, if_pos hle, Int.add_sub_cancel, Nat.sub_add_cancel (by omega : 9 ≤ m)]
    refine ⟨by omega, by omega, by omega, by omega, ?_⟩
    by_cases hlast : d = 365
    · have := hleap hlast
      interval_cases m <;> simp only [daysBeforeMonth, monthLength, this, if_true] at * <;> omega
    · interval_cases m <;> simp only [daysBeforeMonth, monthLength] at *
      · omega
      · split <;> omega

/-- The month and the day give the day of a year that begins with March. -/
theorem exists_month {year : Int} {month day : Nat} (hmonth : 1 ≤ month ∧ month ≤ 12)
    (hday : 1 ≤ day ∧ day ≤ monthLength year month) :
    ∃ (y : Int) (m : Nat), (if m < 10 then (y, m + 3) else (y + 1, m - 9)) = (year, month) ∧
      (5 * (daysBeforeMonth m + (day - 1)) + 2) / 153 = m ∧ daysBeforeMonth m + (day - 1) ≤ 365 ∧
      (daysBeforeMonth m + (day - 1) = 365 → isLeapYear (y + 1)) := by
  obtain ⟨hlow, hhigh⟩ := hmonth
  have hlength : day ≤ monthLength year month := hday.2
  by_cases hmarch : 3 ≤ month
  · -- no such month is the last one
    refine ⟨year, month - 3, ?_⟩
    rw [if_pos (by omega), Nat.sub_add_cancel hmarch]
    refine ⟨rfl, ?_, ?_, fun h => absurd h ?_⟩ <;> interval_cases month <;>
      simp only [daysBeforeMonth, monthLength] at * <;> omega
  · refine ⟨year - 1, month + 9, ?_⟩
    rw [if_neg (by omega), Nat.add_sub_cancel, Int.sub_add_cancel]
    have hfebruary : month = 2 → day ≤ 29 ∧ (day = 29 → isLeapYear year) := by
      rintro rfl
      by_cases hleap : isLeapYear year
      · rw [monthLength, if_pos hleap] at hlength
        exact ⟨hlength, fun _ => hleap⟩
      · rw [monthLength, if_neg hleap] at hlength
        exact ⟨by omega, fun h => by omega⟩
    interval_cases month
    · simp only [daysBeforeMonth, monthLength] at *
      exact ⟨trivial, by omega, by omega, fun h => by omega⟩
    · obtain ⟨hle, hleap⟩ := hfebruary rfl
      simp only [daysBeforeMonth] at *
      exact ⟨trivial, by omega, by omega, fun h => hleap (by omega)⟩

/-- A date is that of a day of an era. -/
theorem exists_date {year : Int} {month day : Nat} (hmonth : 1 ≤ month ∧ month ≤ 12)
    (hday : 1 ≤ day ∧ day ≤ monthLength year month) :
    ∃ (era : Int) (e : EraDay), e.date era = (year, month, day) := by
  obtain ⟨y, m, hym, hm, hle, hleap⟩ := exists_month hmonth hday
  let e : EraDay := ⟨(y % 400).toNat / 100, (y % 400).toNat % 100 / 4, (y % 400).toNat % 4,
    daysBeforeMonth m + (day - 1), by omega, by omega, by omega, hle, fun h => by
      have := isLeapYear_iff.mp (hleap h)
      omega⟩
  have hyear : y / 400 * 400 + (e.yearOfEra : Int) = y := by
    simp only [yearOfEra, e]
    omega
  refine ⟨y / 400, e, ?_⟩
  have hcount : daysBeforeMonth m + (day - 1) - daysBeforeMonth m + 1 = day := by omega
  simp only [date, hyear]
  simp only [e, hm, hcount]
  by_cases h10 : m < 10
  · rw [if_pos h10] at hym ⊢
    cases hym
    rfl
  · rw [if_neg h10] at hym ⊢
    cases hym
    rfl

end EraDay

/-! ## Dates -/

/-- A date is on the calendar if its year, month and day each are in their bounds. -/
theorem isDate_iff {year : Int} {month day : Nat} : isDate year month day ↔
    (-262143 ≤ year ∧ year ≤ 262142) ∧ (1 ≤ month ∧ month ≤ 12) ∧
      1 ≤ day ∧ day ≤ monthLength year month := by
  simp only [isDate, Bool.and_eq_true, decide_eq_true_eq, and_assoc]

/-- **A date is that of its number.** -/
theorem dateOfNumber_dayNumber {year : Int} {month day : Nat} (h : isDate year month day) :
    dateOfNumber (dayNumber year month day) = (year, month, day) := by
  obtain ⟨-, hmonth, hday⟩ := isDate_iff.mp h
  obtain ⟨era, e, he⟩ := EraDay.exists_date hmonth hday
  rw [(EraDay.day_spec he).1, EraDay.dateOfNumber_number, he]

/-- Every day is the day of an era. -/
theorem exists_eraDay (n : Int) : ∃ (era : Int) (e : EraDay), n = 146097 * era + e.number := by
  obtain ⟨e, he⟩ := EraDay.exists_number (n := (n % 146097).toNat) (by omega)
  exact ⟨n / 146097, e, by omega⟩

/-- **A number is that of its date.** -/
theorem dayNumber_dateOfNumber {n : Int} {year : Int} {month day : Nat}
    (h : dateOfNumber n = (year, month, day)) : dayNumber year month day = n ∧
      (1 ≤ month ∧ month ≤ 12) ∧ 1 ≤ day ∧ day ≤ monthLength year month := by
  obtain ⟨era, e, rfl⟩ := exists_eraDay n
  rw [EraDay.dateOfNumber_number] at h
  obtain ⟨hnumber, hlow, hhigh, hday⟩ := EraDay.day_spec h
  exact ⟨hnumber, ⟨hlow, hhigh⟩, hday⟩

/-- The number of a day of the calendar. -/
def OnCalendar (n : Int) : Prop := dayNumber (-262143) 1 1 ≤ n ∧ n ≤ dayNumber 262142 12 31

/-- The days that are on the calendar, by their numbers. -/
theorem onCalendar_iff {n : Int} : OnCalendar n ↔ -95745824 ≤ n ∧ n ≤ 95745704 := by
  have hfirst : dayNumber (-262143) 1 1 = -95745824 := by decide
  have hlast : dayNumber 262142 12 31 = 95745704 := by decide
  rw [OnCalendar, hfirst, hlast]

/-- A year has 365 days at least. -/
theorem daysBeforeYear_succ (year : Int) :
    daysBeforeYear year + 365 ≤ daysBeforeYear (year + 1) := by
  simp only [daysBeforeYear]
  omega

/-- Later years begin later. -/
theorem daysBeforeYear_le {year year' : Int} (h : year ≤ year') :
    daysBeforeYear year ≤ daysBeforeYear year' := by
  simp only [daysBeforeYear]
  omega

/-- A year goes from its first of January to the next one. -/
theorem dayNumber_bounds {year : Int} {month day : Nat} (hmonth : 1 ≤ month ∧ month ≤ 12)
    (hday : 1 ≤ day ∧ day ≤ monthLength year month) :
    daysBeforeYear (year - 1) + 306 ≤ dayNumber year month day ∧
      dayNumber year month day < daysBeforeYear year + 306 := by
  have hyear := daysBeforeYear_succ (year - 1)
  rw [Int.sub_add_cancel] at hyear
  obtain ⟨y, m, hym, hm, hle, -⟩ := EraDay.exists_month hmonth hday
  by_cases h10 : m < 10
  · rw [if_pos h10] at hym
    cases hym
    have hnot : ¬m + 3 ≤ 2 := by omega
    simp only [dayNumber, if_neg hnot, Nat.add_sub_cancel]
    omega
  · rw [if_neg h10] at hym
    cases hym
    have hnine : m - 9 + 9 = m := by omega
    have hmonth : m - 9 ≤ 2 := by
      simp only [daysBeforeMonth] at hle
      omega
    simp only [dayNumber, if_pos hmonth, hnine, Int.add_sub_cancel] at hyear ⊢
    omega

/-- The day of a date is on the calendar. -/
theorem onCalendar_dayNumber {year : Int} {month day : Nat} (h : isDate year month day) :
    OnCalendar (dayNumber year month day) := by
  obtain ⟨⟨hlow, hhigh⟩, hmonth, hday⟩ := isDate_iff.mp h
  obtain ⟨hle, hlt⟩ := dayNumber_bounds hmonth hday
  have hfirst : daysBeforeYear (-262144) ≤ daysBeforeYear (year - 1) :=
    daysBeforeYear_le (by omega)
  have hlast : daysBeforeYear year ≤ daysBeforeYear 262142 := daysBeforeYear_le hhigh
  rw [onCalendar_iff]
  rw [show daysBeforeYear (-262144) = -95746130 by decide] at hfirst
  rw [show daysBeforeYear 262142 = 95745399 by decide] at hlast
  omega

/-- The date of a number on the calendar. -/
theorem isDate_of_onCalendar {n : Int} (hn : OnCalendar n) {year : Int} {month day : Nat}
    (h : dateOfNumber n = (year, month, day)) : isDate year month day := by
  obtain ⟨rfl, hmonth, hday⟩ := dayNumber_dateOfNumber h
  obtain ⟨hle, hlt⟩ := dayNumber_bounds hmonth hday
  rw [onCalendar_iff] at hn
  have hlow : -262143 ≤ year := by
    by_contra hlow
    have hfirst : daysBeforeYear year ≤ daysBeforeYear (-262144) := daysBeforeYear_le (by omega)
    rw [show daysBeforeYear (-262144) = -95746130 by decide] at hfirst
    omega
  have hhigh : year ≤ 262142 := by
    by_contra hhigh
    have hlast : daysBeforeYear 262142 ≤ daysBeforeYear (year - 1) := daysBeforeYear_le (by omega)
    rw [show daysBeforeYear 262142 = 95745399 by decide] at hlast
    omega
  exact isDate_iff.mpr ⟨⟨hlow, hhigh⟩, hmonth, hday⟩

/-! ## Moments -/

namespace Timestamp

variable {p q : Timestamp}

/-- The start of the day. -/
def midnight (p : Timestamp) : Timestamp :=
  { p with hour := 0, minute := 0, second := 0, nano := 0, time_ok := by decide }

/-- The moment lies in no leap second. -/
def IsOrdinary (p : Timestamp) : Prop := p.nano < 1000000000

instance (p : Timestamp) : Decidable p.IsOrdinary := inferInstanceAs (Decidable (_ < _))

/-- The nanoseconds from midnight. -/
def nanosOfDay (p : Timestamp) : Nat :=
  ((p.hour * 60 + p.minute) * 60 + p.second) * 1000000000 + p.nano

/-- The bounds of hours, minutes and seconds. -/
theorem time_lt (p : Timestamp) : p.hour < 24 ∧ p.minute < 60 ∧ p.second < 60 := by
  have h := p.time_ok
  simp only [isTime, Bool.and_eq_true, decide_eq_true_eq, and_assoc] at h
  exact ⟨h.1, h.2.1, h.2.2.1⟩

/-- The nanoseconds of a timestamp are those of its days and those of its time of day. -/
theorem nanosSince2000_eq (p : Timestamp) :
    p.nanosSince2000 = p.daysSince2000 * 86400000000000 + p.nanosOfDay := by
  simp only [nanosSince2000, nanosOfDay]
  omega

/-- The time of an ordinary timestamp is within its day. -/
theorem nanosOfDay_lt (hp : p.IsOrdinary) : p.nanosOfDay < 86400000000000 := by
  obtain ⟨hhour, hminute, hsecond⟩ := p.time_lt
  simp only [nanosOfDay, IsOrdinary] at *
  omega

/-- The day of a timestamp is on the calendar. -/
theorem onCalendar_day (p : Timestamp) : OnCalendar (p.daysSince2000 + millenniumDay) := by
  rw [daysSince2000, Int.sub_add_cancel]
  exact onCalendar_dayNumber p.date_ok

/-- **The midnight of a day** is found by its number. -/
theorem ofDaysSince2000?_daysSince2000 (p : Timestamp) :
    ofDaysSince2000? p.daysSince2000 = some p.midnight := by
  rw [ofDaysSince2000?, daysSince2000, Int.sub_add_cancel, dateOfNumber_dayNumber p.date_ok]
  exact p.midnight.ofFields?_fields

/-- Timestamps of one day have one date. -/
theorem date_eq_of_daysSince2000 (h : p.daysSince2000 = q.daysSince2000) :
    (p.year, p.month, p.day) = (q.year, q.month, q.day) := by
  have hnumber : dayNumber p.year p.month p.day = dayNumber q.year q.month q.day := by
    simp only [daysSince2000] at h
    omega
  rw [← dateOfNumber_dayNumber p.date_ok, hnumber, dateOfNumber_dayNumber q.date_ok]

/-- **A moment is its nanoseconds**, unless it lies in a leap second. -/
theorem nanosSince2000_injective (hp : p.IsOrdinary) (hq : q.IsOrdinary)
    (h : p.nanosSince2000 = q.nanosSince2000) : p = q := by
  have hplt := nanosOfDay_lt hp
  have hqlt := nanosOfDay_lt hq
  rw [nanosSince2000_eq, nanosSince2000_eq] at h
  have hdate := date_eq_of_daysSince2000 (p := p) (q := q) (by omega)
  have htime : p.nanosOfDay = q.nanosOfDay := by omega
  obtain ⟨hphour, hpminute, hpsecond⟩ := p.time_lt
  obtain ⟨hqhour, hqminute, hqsecond⟩ := q.time_lt
  simp only [IsOrdinary, nanosOfDay] at *
  have hhour : p.hour = q.hour := by omega
  have hminute : p.minute = q.minute := by omega
  have hsecond : p.second = q.second := by omega
  have hnano : p.nano = q.nano := by omega
  obtain ⟨hyear, hmonth, hday⟩ : p.year = q.year ∧ p.month = q.month ∧ p.day = q.day := by
    simpa using hdate
  cases p
  cases q
  simp only at *
  subst hyear hmonth hday hhour hminute hsecond hnano
  rfl

/-- **The moment of so many microseconds.** -/
theorem exists_ofMicrosSince2000? {k : Int} (h : OnCalendar (k / 86400000000 + millenniumDay)) :
    ∃ p, ofMicrosSince2000? k = some p ∧ p.IsOrdinary ∧ p.nanosSince2000 = 1000 * k := by
  rcases hdate : dateOfNumber (k / 86400000000 + millenniumDay) with ⟨year, month, day⟩
  have hvalid := isDate_of_onCalendar h hdate
  have hnumber := (dayNumber_dateOfNumber hdate).1
  have htime : isTime ((k % 86400000000).toNat / 3600000000)
      ((k % 86400000000).toNat / 60000000 % 60) ((k % 86400000000).toNat / 1000000 % 60)
      ((k % 86400000000).toNat % 1000000 * 1000) := by
    simp only [isTime, Bool.and_eq_true, decide_eq_true_eq]
    omega
  refine ⟨⟨year, month, day, _, _, _, _, hvalid, htime⟩, ?_, ?_, ?_⟩
  · simp only [ofMicrosSince2000?, hdate, ofFields?, dif_pos hvalid, dif_pos htime]
  · simp only [IsOrdinary]
    omega
  · simp only [nanosSince2000, daysSince2000, hnumber]
    omega

/-- The day does not change when a moment is cut to microseconds, unless it is cut up to the year
2000. -/
theorem microsSince2000_day (hp : p.IsOrdinary) :
    p.daysSince2000 ≤ p.microsSince2000 / 86400000000 ∧
      p.microsSince2000 / 86400000000 ≤ max p.daysSince2000 0 := by
  have hlt := nanosOfDay_lt hp
  rw [microsSince2000, nanosSince2000_eq]
  rcases le_total 0 (p.daysSince2000 * 86400000000000 + p.nanosOfDay) with hle | hle
  · rw [Int.tdiv_eq_ediv_of_nonneg hle]
    omega
  · -- before the year 2000 a moment is cut upward
    have hcut := Int.tdiv_eq_ediv_of_nonneg (b := 1000) (Int.neg_nonneg.mpr hle)
    rw [Int.neg_tdiv] at hcut
    omega

/-- **The nearest moment of whole microseconds** on the way to the year 2000. -/
theorem exists_truncated (hp : p.IsOrdinary) :
    ∃ q, ofMicrosSince2000? p.microsSince2000 = some q ∧ q.IsOrdinary ∧
      q.nanosSince2000 = 1000 * p.microsSince2000 := by
  refine exists_ofMicrosSince2000? ?_
  have hday := onCalendar_iff.mp p.onCalendar_day
  obtain ⟨hle, hge⟩ := microsSince2000_day hp
  rw [show millenniumDay = 730425 by decide] at hday ⊢
  rw [onCalendar_iff]
  omega

end Timestamp

end Tabula
