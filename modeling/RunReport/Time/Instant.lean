import RunReport.Text.Numeral
import RunReport.Time.Calendar
import RunReport.Time.Span

/-!
# Instants

A point in time in UTC, leap seconds included.

A leap second is written as second 60. It is kept as the second before it with a count of
nanoseconds past one thousand million, so that instants are ordered by day, second and nanosecond.
Between two instants the clock counts a leap second only if it lies strictly between their seconds
on the same clock face; `Instant.since` says how.

## Main definitions

* `Instant`: Day, second of the day, nanosecond.
* `Instant.Before`: The order of instants.
* `Instant.since`: Nanoseconds from one instant to another, negative if it is earlier.
* `Instant.elapsed?`: The span between two instants, unless it is negative.
* `Instant.longText`, `Instant.shortText`: The two ways a page shows an instant.
-/

namespace RunReport

/-- A point in time in UTC. A second of 10⁹ nanoseconds or more is a leap second. -/
structure Instant where
  day : Int
  second : Nat
  nano : Nat
  second_lt : second < 86400
  nano_lt : nano < 2000000000
  deriving DecidableEq

namespace Instant

/-- One instant is strictly earlier than another. -/
def Before (a b : Instant) : Prop :=
  a.day < b.day ∨ a.day = b.day ∧ (a.second < b.second ∨ a.second = b.second ∧ a.nano < b.nano)

/-- Whether an instant lies in a leap second. -/
def isLeap (a : Instant) : Bool :=
  1000000000 ≤ a.nano

/-- Seconds since 1 January 1970; a leap second counts as the second before it. -/
def epochSeconds (a : Instant) : Int :=
  a.day * 86400 + a.second

/-- The leap seconds that the clock passes from one time of day to another: the one it starts in,
    if it goes forward, and taken back the one it ends in, if it goes backward. -/
def leapCorrection (later earlier : Instant) : Int :=
  if earlier.second < later.second then (if earlier.isLeap then 1 else 0)
  else if later.second < earlier.second then (if later.isLeap then -1 else 0)
  else 0

/-- The nanoseconds from an earlier instant to a later one. -/
def since (later earlier : Instant) : Int :=
  (later.epochSeconds - earlier.epochSeconds + leapCorrection later earlier) * 1000000000 +
    ((later.nano : Int) - earlier.nano)

/-- The span from a start to an end, if it is not negative. -/
def elapsed? (start finish : Instant) : Option Span :=
  let n := finish.since start
  if n < 0 then none else some (Span.ofNanos n.toNat)

/-- The second as a clock shows it, 60 in a leap second. -/
def shownSecond (a : Instant) : Nat :=
  a.second % 60 + a.nano / 1000000000

/-- A year in four digits; beyond four digits and below zero with its sign. -/
def yearText (year : Int) : String :=
  if 0 ≤ year ∧ year ≤ 9999 then Numeral.padded 4 year.toNat
  else (if year < 0 then "-" else "+") ++ Numeral.padded 4 year.natAbs

/-- Hours, minutes and seconds of an instant. -/
def clockText (a : Instant) : String :=
  Numeral.padded 2 (a.second / 3600) ++ ":" ++ Numeral.padded 2 (a.second / 60 % 60) ++ ":" ++
    Numeral.padded 2 a.shownSecond

/-- An instant for reading: the day of the week, the date in words, the time. -/
def longText (a : Instant) : String :=
  let d := Date.ofDayNumber a.day
  weekdayName (weekday a.day) ++ ", " ++ monthName d.month ++ " " ++ Numeral.padded 2 d.day ++
    ", " ++ yearText d.year ++ " at " ++ a.clockText

/-- An instant for a table: the date in digits and the time. -/
def shortText (a : Instant) : String :=
  let d := Date.ofDayNumber a.day
  yearText d.year ++ "-" ++ Numeral.padded 2 d.month ++ "-" ++ Numeral.padded 2 d.day ++ " " ++
    a.clockText

end Instant

end RunReport
