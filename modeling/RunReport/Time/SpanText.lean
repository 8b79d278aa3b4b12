import RunReport.Text.Blank
import RunReport.Text.Framed
import RunReport.Time.Span
import RunReport.Unicode.Category

/-!
# Spans in Words

Reading a span such as `5m` or `300000 ms`: a number, a unit word, and blanks anywhere around them.

The number may be written in the digits of any script as far as the form goes, but only the ten
digits of ASCII have a value here, so other digits end up out of range. A number must fit 64 bits,
and so must the milliseconds it stands for.

## Main definitions

* `SpanUnit`: The four units, with their words.
* `SpanFault`: What can be wrong with a text, with what is said of it.
* `SpanText.parts?`: The digits and the unit word of a text.
* `SpanText.read`: The span a text writes.
-/

namespace RunReport

/-- A unit of time. -/
inductive SpanUnit
  | millisecond
  | second
  | minute
  | hour
  deriving DecidableEq

namespace SpanUnit

/-- All units. -/
def all : List SpanUnit :=
  [millisecond, second, minute, hour]

/-- The words for a unit. -/
def words : SpanUnit → List String
  | millisecond => ["ms", "millisecond", "millis", "milliseconds"]
  | second => ["s", "second", "secs", "seconds"]
  | minute => ["m", "minute", "mins", "minutes"]
  | hour => ["h", "hour", "hours"]

/-- The name of a unit in a message. -/
def name : SpanUnit → String
  | millisecond => "Millisecond"
  | second => "Second"
  | minute => "Minute"
  | hour => "Hour"

/-- The milliseconds of one unit. -/
def millis : SpanUnit → Nat
  | millisecond => 1
  | second => 1000
  | minute => 60000
  | hour => 3600000

/-- The unit a word names. -/
def ofWord? (word : String) : Option SpanUnit :=
  all.find? (·.words.contains word)

end SpanUnit

/-- What is wrong with a text that should write a span. -/
inductive SpanFault
  | malformed (text : String)
  | unknownUnit (word : String)
  | outOfRange (text : String)
  deriving DecidableEq

namespace SpanFault

/-- What is said of a fault. -/
def message : SpanFault → String
  | malformed text => "'" ++ text ++ "' is not a duration, expected <number><unit>"
  | unknownUnit word => "Unit '" ++ word ++ "' not supported"
  | outOfRange text => "Duration '" ++ text ++ "' is out of range"

/-- A fault as a diagnostic shows it. -/
def diagnostic (f : SpanFault) : String :=
  Text.framed "DurationError" f.message

end SpanFault

namespace SpanText

open Text

/-- Whether a character is a decimal digit in any script. -/
def isDigit (c : Char) : Bool :=
  Unicode.Category.decimalNumber.contains c

/-- Whether a character may stand in a unit word. -/
def isLetter (c : Char) : Bool :=
  'a' ≤ c && c ≤ 'z'

/-- The digits and the unit word of a text that has the form of a span. -/
def parts? (cs : List Char) : Option (List Char × List Char) :=
  let cs := trimStart cs
  let digits := cs.takeWhile isDigit
  let cs := trimStart (cs.dropWhile isDigit)
  let word := cs.takeWhile isLetter
  if digits.isEmpty || word.isEmpty || !(cs.dropWhile isLetter).all isBlank then none
  else some (digits, word)

/-- The span of so many units, if its milliseconds fit 64 bits. -/
def ofUnits (count : Nat) (unit : SpanUnit) : Except SpanFault Span :=
  if count * unit.millis < Word.count then .ok (Span.ofMillis (count * unit.millis).toUInt64)
  else .error (.outOfRange (Numeral.text count ++ unit.name))

/-- The span a text writes. -/
def read (s : String) : Except SpanFault Span :=
  match parts? s.toList with
  | none => .error (.malformed s)
  | some (digits, word) =>
    match (Numeral.valueOf? digits).filter (· < Word.count) with
    | none => .error (.outOfRange s)
    | some count =>
      match SpanUnit.ofWord? (String.ofList word) with
      | none => .error (.unknownUnit (String.ofList word))
      | some unit => ofUnits count unit

end SpanText

end RunReport
