/-!
# The Calendar

Days of the Gregorian calendar, extended to all years, counted from 1 January 1970.

Counting starts a year in March, so that the leap day is the last one: then the day of the year is
a linear function of the month, and 400 years have always 146097 days. Divisions go to the floor,
because days before 1970 and years before 0 are negative.

## Main definitions

* `Date`: A year, a month and a day.
* `Date.valid`: The month has that day.
* `Date.dayNumber`, `Date.ofDayNumber`: A date as a count of days, and back.
* `weekday`: The day of the week, from Sunday.
-/

namespace RunReport

/-- A year, a month from 1 to 12, and a day of it. -/
structure Date where
  year : Int
  month : Nat
  day : Nat
  deriving DecidableEq

namespace Date

/-- Whether a year has 366 days. -/
def isLeap (year : Int) : Bool :=
  year % 4 == 0 && (year % 100 != 0 || year % 400 == 0)

/-- How many days a month has. -/
def daysIn (year : Int) (month : Nat) : Nat :=
  if month == 2 then (if isLeap year then 29 else 28)
  else if month == 4 || month == 6 || month == 9 || month == 11 then 30
  else 31

/-- Whether the calendar has this date. -/
def valid (d : Date) : Bool :=
  1 ≤ d.month && d.month ≤ 12 && 1 ≤ d.day && d.day ≤ daysIn d.year d.month

/-- The days from 1 January 1970 to a date. -/
def dayNumber (d : Date) : Int :=
  let year := if d.month ≤ 2 then d.year - 1 else d.year
  let era := Int.fdiv year 400
  let yearOfEra := year - era * 400
  let monthFromMarch : Int := if d.month ≤ 2 then d.month + 9 else d.month - 3
  let dayOfYear := Int.fdiv (153 * monthFromMarch + 2) 5 + d.day - 1
  let dayOfEra := yearOfEra * 365 + Int.fdiv yearOfEra 4 - Int.fdiv yearOfEra 100 + dayOfYear
  era * 146097 + dayOfEra - 719468

/-- The date so many days after 1 January 1970. -/
def ofDayNumber (n : Int) : Date :=
  let z := n + 719468
  let era := Int.fdiv z 146097
  let dayOfEra := (z - era * 146097).toNat
  let yearOfEra :=
    (dayOfEra - dayOfEra / 1460 + dayOfEra / 36524 - dayOfEra / 146096) / 365
  let dayOfYear := dayOfEra - (365 * yearOfEra + yearOfEra / 4 - yearOfEra / 100)
  let monthFromMarch := (5 * dayOfYear + 2) / 153
  let day := dayOfYear - (153 * monthFromMarch + 2) / 5 + 1
  let month := if monthFromMarch < 10 then monthFromMarch + 3 else monthFromMarch - 9
  let year : Int := yearOfEra + era * 400
  ⟨if month ≤ 2 then year + 1 else year, month, day⟩

end Date

/-- The day of the week of a day number, 0 for Sunday. -/
def weekday (n : Int) : Nat :=
  (Int.fmod (n + 4) 7).toNat

/-- The short name of a day of the week. -/
def weekdayName (w : Nat) : String :=
  (["Sun", "Mon", "Tue", "Wed", "Thu", "Fri", "Sat"][w]?).getD ""

/-- The short name of a month. -/
def monthName (m : Nat) : String :=
  (["Jan", "Feb", "Mar", "Apr", "May", "Jun", "Jul", "Aug", "Sep", "Oct", "Nov",
    "Dec"][m - 1]?).getD ""

end RunReport
