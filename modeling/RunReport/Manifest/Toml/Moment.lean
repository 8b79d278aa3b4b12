import RunReport.Text.Numeral

/-!
# Dates and Times in TOML

A date, a time of day, or both, with an offset or without one.

Settings are texts, so a moment is kept as the text that writes it in its one usual form: the date
and the time with a `T` between them, a fraction without zeros at its end, and `Z` in capitals.
Months and days are only checked against their greatest numbers, whatever the month.

## Main definitions

* `Toml.date?`, `Toml.time?`, `Toml.offset?`: The parts of a moment.
* `Toml.moment?`: The usual form of a moment.
-/

namespace RunReport

namespace Toml

/-- The text of so many digits whose number lies within limits, and the text after them. -/
def digits? (count least most : Nat) (cs : List Char) : Option (List Char × List Char) :=
  let ds := cs.take count
  match Numeral.valueOf? ds with
  | some n => if ds.length = count ∧ least ≤ n ∧ n ≤ most then some (ds, cs.drop count) else none
  | none => none

/-- A text behind a sign. -/
def behind (sign : Char) : List Char → Option (List Char)
  | c :: cs => if c = sign then some cs else none
  | [] => none

/-- A date. -/
def date? (cs : List Char) : Option (List Char × List Char) := do
  let (year, cs) ← digits? 4 0 9999 cs
  let (month, cs) ← digits? 2 1 12 (← behind '-' cs)
  let (day, cs) ← digits? 2 1 31 (← behind '-' cs)
  return (year ++ '-' :: month ++ '-' :: day, cs)

/-- The digits of a fraction that count: nine at most, and no zeros at the end. -/
def places (ds : List Char) : List Char :=
  ((ds.take 9).reverse.dropWhile (· = '0')).reverse

/-- A fraction of a second, if there is one. -/
def fraction? : List Char → Option (List Char × List Char)
  | '.' :: cs =>
    let ds := cs.takeWhile Char.isDigit
    if ds.isEmpty then none
    else some (if (places ds).isEmpty then [] else '.' :: places ds, cs.drop ds.length)
  | cs => some ([], cs)

/-- A time of day. -/
def time? (cs : List Char) : Option (List Char × List Char) := do
  let (hour, cs) ← digits? 2 0 24 cs
  let (minute, cs) ← digits? 2 0 59 (← behind ':' cs)
  let (second, cs) ← digits? 2 0 59 (← behind ':' cs)
  let (fraction, cs) ← fraction? cs
  return (hour ++ ':' :: minute ++ ':' :: second ++ fraction, cs)

/-- The offset at the end of a text, if there is one. No hours are written with a plus sign. -/
def offset? : List Char → Option (List Char)
  | [] => some []
  | ['Z'] => some ['Z']
  | ['z'] => some ['Z']
  | sign :: cs =>
    if sign = '+' ∨ sign = '-' then do
      let (hours, cs) ← digits? 2 0 99 cs
      let (minutes, cs) ← digits? 2 0 99 (← behind ':' cs)
      let sign := if hours = ['0', '0'] then '+' else sign
      if cs.isEmpty then some (sign :: hours ++ ':' :: minutes) else none
    else none

/-- The usual form of a date, a time or both. -/
def moment? (cs : List Char) : Option String :=
  match date? cs with
  | some (date, []) => some (String.ofList date)
  | some (date, t :: rest) =>
    if ['T', 't', ' '].contains t then do
      let (time, rest) ← time? rest
      let offset ← offset? rest
      return String.ofList (date ++ 'T' :: time ++ offset)
    else none
  | none =>
    match time? cs with
    | some (time, []) => some (String.ofList time)
    | _ => none

end Toml

end RunReport
