import RunReport.Number.Binary64

/-!
# Reading Real Numbers

Floating-point numbers as they are written in tables and manifests.

A number has a sign if it needs one, digits with at most one point among them, and an exponent of
ten. The words for infinity and for no number may be in any case. The value is the nearest number
to the decimal.

## Main definitions

* `Binary64.read?`: The number that a text writes.
-/

namespace RunReport

namespace Binary64

/-- Whether a text starts with a minus sign, and the text without its sign. -/
def sign : List Char → Bool × List Char
  | '-' :: cs => (true, cs)
  | '+' :: cs => (false, cs)
  | cs => (false, cs)

/-- The exponent behind the digits of a number; 0 if there is none. -/
def exponent? : List Char → Option Int
  | [] => some 0
  | c :: cs =>
    if c = 'e' ∨ c = 'E' then
      (Numeral.valueOf? (sign cs).2).map fun n => if (sign cs).1 then -(n : Int) else n
    else none

/-- The digits behind a point, and the text after them. -/
def fraction : List Char → List Char × List Char
  | '.' :: cs => (cs.takeWhile Char.isDigit, cs.dropWhile Char.isDigit)
  | cs => ([], cs)

/-- The number that digits write, with a point or an exponent. -/
def decimal? (negative : Bool) (cs : List Char) : Option Binary64 :=
  let whole := cs.takeWhile Char.isDigit
  let (places, rest) := fraction (cs.dropWhile Char.isDigit)
  if whole.isEmpty && places.isEmpty then none
  else
    (exponent? rest).map fun e =>
      ofDecimal negative (Numeral.accumulate 0 (whole ++ places)) (e - places.length)

/-- The number that a text writes. -/
def read? (cs : List Char) : Option Binary64 :=
  let (negative, size) := sign cs
  let word := String.ofList (size.map Char.toLower)
  if word = "inf" ∨ word = "infinity" then some (infinite negative)
  else if word = "nan" then some nan
  else decimal? negative size

end Binary64

end RunReport
