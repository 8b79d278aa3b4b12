import RunReport.Text.Blank
import RunReport.Time.Instant

/-!
# Timestamps

Reading a date and time with an offset, such as `2020-06-01T12:00:00+02:00`.

The form is the one of internet timestamps, read leniently: blanks may stand before each number and
around the separators, numbers may have fewer digits, the date and the time are parted by a `T` or
a blank, the colon of the offset may be missing, and `UTC` may stand for the offset `Z`. A year of
other than four digits needs a sign. Second 60 is a leap second. A timestamp is refused if the
calendar has no such day or if it lies outside the years −262143 to 262142.

## Main definitions

* `Timestamp.read?`: The instant that a text writes.
-/

namespace RunReport

namespace Timestamp

open Text

/-- What is read, and the text after it. -/
abbrev Step (α : Type) := Option (α × List Char)

/-- A number of one to `most` digits, after blanks. -/
def number (most : Nat) (cs : List Char) : Step Nat :=
  let cs := trimStart cs
  let digits := (cs.take most).takeWhile Char.isDigit
  (Numeral.valueOf? digits).map fun n => (n, cs.drop digits.length)

/-- A year: four digits at most, or any number of them after a sign. -/
def year (cs : List Char) : Step Int :=
  match trimStart cs with
  | '-' :: r =>
    let digits := r.takeWhile Char.isDigit
    (Numeral.valueOf? digits).map fun n => (-(n : Int), r.drop digits.length)
  | '+' :: r =>
    let digits := r.takeWhile Char.isDigit
    (Numeral.valueOf? digits).map fun n => ((n : Int), r.drop digits.length)
  | r =>
    let digits := (r.take 4).takeWhile Char.isDigit
    (Numeral.valueOf? digits).map fun n => ((n : Int), r.drop digits.length)

/-- A separator, after blanks. -/
def separator (c : Char) (cs : List Char) : Option (List Char) :=
  match trimStart cs with
  | x :: r => if x = c then some r else none
  | [] => none

/-- The nanoseconds of a decimal fraction; digits after the ninth are dropped. -/
def fraction (digits : List Char) : Nat :=
  let kept := digits.take 9
  Numeral.accumulate 0 kept * Nat.pow 10 (9 - kept.length)

/-- The nanoseconds after a point, if there is one. -/
def nanoseconds : List Char → Step Nat
  | '.' :: r =>
    let digits := r.takeWhile Char.isDigit
    if digits.isEmpty then none else some (fraction digits, r.drop digits.length)
  | r => some (0, r)

/-- A number of exactly two digits. -/
def twoDigits : List Char → Step Nat
  | a :: b :: r => (Numeral.valueOf? [a, b]).map fun n => (n, r)
  | _ => none

/-- Hours and minutes of an offset after its sign, in seconds. -/
def signedOffset (sign : Int) (cs : List Char) : Step Int :=
  (twoDigits cs).bind fun (hours, r) =>
    (twoDigits (r.dropWhile fun c => c == ':' || isBlank c)).bind fun (minutes, r) =>
      if minutes < 60 then some (sign * (hours * 3600 + minutes * 60), r) else none

/-- An offset of a time zone in seconds: a sign with hours and minutes, or a name of UTC. -/
def offset (cs : List Char) : Step Int :=
  if (cs.take 3).map Char.toUpper = ['U', 'T', 'C'] then some (0, cs.drop 3)
  else
    match cs with
    | 'Z' :: r => some (0, r)
    | 'z' :: r => some (0, r)
    | '+' :: r => signedOffset 1 r
    | '-' :: r => signedOffset (-1) r
    | '−' :: r => signedOffset (-1) r
    | _ => none

/-- The first and the last day that an instant may lie on. -/
def firstDay : Int := (Date.mk (-262143) 1 1).dayNumber

@[inherit_doc firstDay]
def lastDay : Int := (Date.mk 262142 12 31).dayNumber

/-- Whether a day lies within the range of instants. -/
def inRange (day : Int) : Bool :=
  firstDay ≤ day && day ≤ lastDay

/-- The instant at a time of day on a date, in a zone so many seconds ahead of UTC. -/
def instant? (date : Date) (hour minute second nano : Nat) (ahead : Int) : Option Instant :=
  if date.valid && inRange date.dayNumber && hour < 24 && minute < 60 && second ≤ 60 &&
      -86400 < ahead && ahead < 86400 then
    let clock : Int := hour * 3600 + minute * 60 + min second 59 - ahead
    let day := date.dayNumber + Int.fdiv clock 86400
    let ofDay := (Int.fmod clock 86400).toNat
    let nano := if second = 60 then nano + 1000000000 else nano
    if h : ofDay < 86400 ∧ nano < 2000000000 then
      if inRange day then some ⟨day, ofDay, nano, h.1, h.2⟩ else none
    else none
  else none

/-- The instant that a text writes. -/
def read? (s : String) : Option Instant := do
  let (year, r) ← year s.toList
  let (month, r) ← number 2 (← separator '-' r)
  let (day, r) ← number 2 (← separator '-' r)
  let r ← match r with
    | c :: r => if c = 'T' ∨ c = 't' ∨ c = ' ' then some r else none
    | [] => none
  let (hour, r) ← number 2 r
  let (minute, r) ← number 2 (← separator ':' r)
  let (second, r) ← number 2 (← separator ':' r)
  let (nano, r) ← nanoseconds r
  let (ahead, r) ← offset (trimStart r)
  if r.all isBlank then instant? ⟨year, month, day⟩ hour minute second nano ahead else none

end Timestamp

end RunReport
