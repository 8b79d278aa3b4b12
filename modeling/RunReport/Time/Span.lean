import RunReport.Text.Numeral

/-!
# Spans

A length of time, counted in nanoseconds.

The longest span is one nanosecond short of 2⁶⁴ seconds, so adding up the times of many tests has
to stop there: `Span.add` keeps the longest span instead of wrapping round. Comparing a span with a
threshold goes by whole milliseconds.

## Main definitions

* `Span`: A length of time below 2⁶⁴ seconds.
* `Span.ofMillis`: So many milliseconds.
* `Span.add`: The sum, or the longest span.
* `Span.text`: Hours, minutes and seconds, as a table cell shows them.
-/

namespace RunReport

/-- A length of time in nanoseconds, below 2⁶⁴ seconds. -/
structure Span where
  nanos : Nat
  nanos_lt : nanos < Word.count * 1000000000
  deriving DecidableEq

namespace Span

/-- No time at all. -/
def zero : Span :=
  ⟨0, by decide⟩

/-- The span of a count of nanoseconds, or the longest span if it is longer. -/
def ofNanos (n : Nat) : Span :=
  if h : n < Word.count * 1000000000 then ⟨n, h⟩ else ⟨Word.count * 1000000000 - 1, by decide⟩

/-- So many milliseconds; their number fits 64 bits. -/
def ofMillis (n : UInt64) : Span :=
  ofNanos (n.toNat * 1000000)

/-- So many seconds and nanoseconds, kept within the longest span. -/
def ofSecondsNanos (seconds : UInt64) (nanos : Nat) : Span :=
  ofNanos (seconds.toNat * 1000000000 + nanos)

/-- The two lengths one after the other, or the longest span. -/
def add (a b : Span) : Span :=
  ofNanos (a.nanos + b.nanos)

/-- The whole milliseconds of a span. -/
def millis (s : Span) : Nat :=
  s.nanos / 1000000

/-- The whole seconds of a span. -/
def seconds (s : Span) : Nat :=
  s.millis / 1000

/-- The hours part of a span's text: empty below one hour. -/
def hoursText (hours : Nat) : String :=
  if hours = 0 then "" else Numeral.text hours ++ "hr"

/-- The minutes part of a span's text: two digits after hours, and empty if neither hours nor
    minutes have passed. -/
def minutesText (hours minutes : Nat) : String :=
  if hours = 0 ∧ minutes = 0 then ""
  else if hours = 0 then " " ++ Numeral.text minutes ++ "m"
  else " " ++ Numeral.padded 2 minutes ++ "m"

/-- Hours, minutes and seconds of a span, as a table cell shows them. -/
def text (s : Span) : String :=
  let minutes := s.seconds / 60
  hoursText (minutes / 60) ++ minutesText (minutes / 60) (minutes % 60) ++
    " " ++ Numeral.padded 2 (s.seconds % 60) ++ "s"

end Span

end RunReport
