import MRF.Library.Units

/-!
# Library — Calendar

Date-times of the Gregorian calendar, to the second, and the number YYYYMMDDhhmmss that a date-time
is written as.  Seconds are counted from the beginning of the year 0.

* `calendarNumber` reads the number of any second; it is strictly monotone, and on the second of a
  `CalendarTime` it is `CalendarTime.digits`.
* `CalendarTime.digits_eq`: how far the number is ahead of the seconds, from the minutes, hours,
  days, months and years that have passed.
-/

namespace MRF.Library

def isLeapYear (year : Nat) : Bool := year % 4 = 0 && (year % 100 ≠ 0 || year % 400 = 0)

/-- The months from 1 to 12. -/
def daysInMonth (year : Nat) : Nat → Nat
  | 2 => if isLeapYear year then 29 else 28
  | 4 | 6 | 9 | 11 => 30
  | _ => 31

def daysInYear (year : Nat) : Nat := if isLeapYear year then 366 else 365

/-- The lengths of the months of a year, counted from 0. -/
def months (year k : Nat) : Nat := daysInMonth year (k + 1)

theorem daysInMonth_pos (year month : Nat) : 0 < daysInMonth year month := by
  unfold daysInMonth
  split <;> try split
  all_goals omega

/-- No month has more than 31 days. -/
theorem daysInMonth_le (year month : Nat) : daysInMonth year month ≤ 31 := by
  unfold daysInMonth
  split <;> try split
  all_goals omega

theorem months_pos (year k : Nat) : 0 < months year k := daysInMonth_pos _ _

theorem daysInYear_pos (year : Nat) : 0 < daysInYear year := by
  unfold daysInYear
  split <;> omega

/-- A year has twelve months. -/
theorem before_months (year : Nat) : before (months year) 12 = daysInYear year := by
  simp only [before, months, daysInMonth, daysInYear]
  split <;> rfl

/-! ### Numbers of days and seconds -/

/-- The number MMDD of a day of a year, both counted from 0. -/
def dayOfYearNumber (year day : Nat) : Nat :=
  100 * ((position (months year) day).1 + 1) + ((position (months year) day).2 + 1)

/-- The number YYYYMMDD of a day. -/
def dateNumber (days : Nat) : Nat :=
  10000 * (position daysInYear days).1 +
    dayOfYearNumber (position daysInYear days).1 (position daysInYear days).2

/-- The number YYYYMMDDhhmmss of a second. -/
def calendarNumber (seconds : Nat) : Nat :=
  1000000 * dateNumber (seconds / 86400) +
    (10000 * (seconds / 3600 % 24) + 100 * (seconds / 60 % 60) + seconds % 60)

/-- The number `MMDD` grows with the day of the year. -/
theorem strictMono_dayOfYearNumber (year : Nat) : StrictMono (dayOfYearNumber year) := by
  refine strictMono_position (f := fun k i => 100 * (k + 1) + (i + 1)) (months_pos year) ?_ ?_
  · intro k i _
    omega
  · intro k i hi
    have hle : months year k ≤ 31 := daysInMonth_le year (k + 1)
    omega

/-- The last day of a year is no later than the 31st of the twelfth month. -/
theorem dayOfYearNumber_lt {year day : Nat} (h : day < daysInYear year) :
    dayOfYearNumber year day < 1300 := by
  have hlt := position_lt (months_pos year) day
  have hday := before_position (months_pos year) day
  have hle : months year (position (months year) day).1 ≤ 31 := daysInMonth_le _ _
  have hmonth : (position (months year) day).1 < 12 := by
    by_contra hge
    have hmono := (before_strictMono (months_pos year)).monotone (Nat.not_lt.mp hge)
    rw [before_months] at hmono
    omega
  unfold dayOfYearNumber
  omega

theorem dayOfYearNumber_zero (year : Nat) : dayOfYearNumber year 0 = 101 := rfl

/-- The number `YYYYMMDD` grows with the day. -/
theorem strictMono_dateNumber : StrictMono dateNumber := by
  refine strictMono_position (f := fun year day => 10000 * year + dayOfYearNumber year day)
    daysInYear_pos ?_ ?_
  · intro year day _
    exact Nat.add_lt_add_left (strictMono_dayOfYearNumber year (Nat.lt_add_one day)) _
  · intro year day hday
    have hlt : dayOfYearNumber year day < 1300 := dayOfYearNumber_lt (by omega)
    simp only [dayOfYearNumber_zero]
    omega

/-- The number `YYYYMMDDhhmmss` grows with the second. -/
theorem strictMono_calendarNumber : StrictMono calendarNumber := by
  refine strictMono_nat_of_lt_succ fun n => ?_
  have hmono := strictMono_dateNumber.monotone
  unfold calendarNumber
  rcases Nat.lt_or_ge (n % 86400 + 1) 86400 with h | h
  · have hday : (n + 1) / 86400 = n / 86400 := by omega
    rw [hday]
    omega
  · have hday : (n + 1) / 86400 = n / 86400 + 1 := by omega
    have hlt := strictMono_dateNumber (Nat.lt_add_one (n / 86400))
    rw [hday]
    omega

/-- The number of a second on a line where the year 0 begins at `start`.  What is earlier has no
number, and is read as it is. -/
def calendarNumberFrom (start d : Int) : Int :=
  if start ≤ d then calendarNumber (d - start).toNat else d - start

/-- From any start, the number grows with the second. -/
theorem calendarNumberFrom_mono (start : Int) ⦃d d' : Int⦄ (h : d ≤ d') :
    calendarNumberFrom start d ≤ calendarNumberFrom start d' := by
  unfold calendarNumberFrom
  split
  · next hd =>
      rw [if_pos (Int.le_trans hd h)]
      exact Int.ofNat_le.mpr (strictMono_calendarNumber.monotone (by omega))
  · next hd =>
      split <;> omega

/-! ### Date-times -/

/-- A date and a time of day. -/
structure CalendarTime where
  year : Nat
  month : Nat
  day : Nat
  hour : Nat
  minute : Nat
  second : Nat
  month_mem : 1 ≤ month ∧ month ≤ 12
  day_mem : 1 ≤ day ∧ day ≤ daysInMonth year month
  hour_lt : hour < 24
  minute_lt : minute < 60
  second_lt : second < 60

namespace CalendarTime

variable (t : CalendarTime)

/-- The days of the year that have passed. -/
def dayOfYear : Nat := before (months t.year) (t.month - 1) + (t.day - 1)

/-- The days since the first of January of the year 0. -/
def days : Nat := before daysInYear t.year + t.dayOfYear

/-- The seconds since then. -/
def seconds : Nat := 86400 * t.days + (3600 * t.hour + 60 * t.minute + t.second)

/-- YYYYMMDDhhmmss. -/
def digits : Nat :=
  1000000 * (10000 * t.year + 100 * t.month + t.day) +
    (10000 * t.hour + 100 * t.minute + t.second)

/-- How many numbers below `digits` are not the number of a date-time: 40 for each minute that has
passed, 4000 more for each hour, 760000 more for each day, and what a month lacks of 100 days, and
a year of 10000. -/
def skipped : Nat :=
  40 * (t.seconds / 60) + 4000 * (t.seconds / 3600) + 760000 * t.days +
    1000000 * ((10000 * t.year - before daysInYear t.year) +
      (100 * t.month - before (months t.year) (t.month - 1)) + 1)

/-- The month and the day come back from the day of the year. -/
theorem position_dayOfYear : position (months t.year) t.dayOfYear = (t.month - 1, t.day - 1) := by
  refine position_before_add (months_pos t.year) ?_
  have hmonth := t.month_mem
  have hday := t.day_mem
  unfold months
  rw [Nat.sub_add_cancel hmonth.1]
  omega

theorem dayOfYear_lt : t.dayOfYear < daysInYear t.year := by
  have hmonth := t.month_mem
  have hday := t.day_mem
  have hlen : t.day - 1 < months t.year (t.month - 1) := by
    unfold months
    rw [Nat.sub_add_cancel hmonth.1]
    omega
  calc t.dayOfYear < before (months t.year) (t.month - 1 + 1) := before_add_lt hlen
    _ ≤ before (months t.year) 12 :=
        (before_strictMono (months_pos t.year)).monotone (by omega)
    _ = daysInYear t.year := before_months t.year

/-- The digits of a date are those of its day. -/
theorem dateNumber_days : dateNumber t.days = 10000 * t.year + 100 * t.month + t.day := by
  have hmonth := t.month_mem
  have hday := t.day_mem
  have hyear : position daysInYear t.days = (t.year, t.dayOfYear) :=
    position_before_add daysInYear_pos t.dayOfYear_lt
  simp only [dateNumber, dayOfYearNumber, hyear, position_dayOfYear]
  omega

/-- The calendar reads the second of a date-time as its digits. -/
theorem calendarNumber_seconds : calendarNumber t.seconds = t.digits := by
  have hhour := t.hour_lt
  have hminute := t.minute_lt
  have hsecond := t.second_lt
  have hdays : t.seconds / 86400 = t.days := by
    unfold seconds
    omega
  rw [calendarNumber, hdays, dateNumber_days, digits]
  unfold seconds
  omega

/-- The digits of a date and time are those of its second. -/
theorem calendarNumberFrom_seconds (start : Int) :
    calendarNumberFrom start (start + t.seconds) = t.digits := by
  have hle : start ≤ start + t.seconds := by omega
  have hsub : (start + t.seconds - start).toNat = t.seconds := by omega
  rw [calendarNumberFrom, if_pos hle, hsub, calendarNumber_seconds]

/-- The digits are the seconds and what the calendar skips. -/
theorem digits_eq : t.digits = t.seconds + t.skipped := by
  have hhour := t.hour_lt
  have hminute := t.minute_lt
  have hsecond := t.second_lt
  have hmonth := t.month_mem
  have hday := t.day_mem
  have hyears : before daysInYear t.year ≤ 366 * t.year :=
    before_le (fun y => by unfold daysInYear; split <;> omega) _
  have hmonths : before (months t.year) (t.month - 1) ≤ 31 * (t.month - 1) :=
    before_le (fun k => daysInMonth_le _ _) _
  unfold digits skipped seconds days dayOfYear
  omega

/-- Numbers run ahead of the seconds, never behind. -/
theorem skipped_mono {t t' : CalendarTime} (h : t.seconds ≤ t'.seconds) :
    t.skipped ≤ t'.skipped := by
  have hle := strictMono_calendarNumber.add_le_nat (t'.seconds - t.seconds) t.seconds
  rw [Nat.sub_add_cancel h, calendarNumber_seconds, calendarNumber_seconds, digits_eq,
    digits_eq] at hle
  omega

end CalendarTime

end MRF.Library
