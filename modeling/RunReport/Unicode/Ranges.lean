/-!
# Ranges of Characters

Sets of characters as lists of ranges, and a short way to write long ones.

A table of Unicode has hundreds of ranges that lie close together. `Ranges.ofText` reads them from
a text: for each range how far it lies behind the one before, and how many characters follow its
first, both in base 36.

## Main definitions

* `Ranges`: First and last character of each range.
* `Ranges.contains`: Whether a character lies in one of the ranges.
* `Ranges.ofText`: The ranges that a text writes.
-/

namespace RunReport

namespace Unicode

/-- A set of characters: the first and the last number of each range. -/
abbrev Ranges := List (Nat × Nat)

namespace Ranges

/-- Whether a character lies in one of the ranges. -/
def contains (rs : Ranges) (c : Char) : Bool :=
  rs.any fun r => r.1 ≤ c.toNat && c.toNat ≤ r.2

/-- The value of a digit in base 36. -/
def digitValue (c : Char) : Nat :=
  if c.isDigit then c.toNat - '0'.toNat else c.toNat - 'a'.toNat + 10

/-- The numbers in base 36 that a text writes between blanks; `current` is the number being
    read. -/
def numbersFrom (current : Option Nat) : List Char → List Nat
  | [] => current.toList
  | c :: cs =>
    if c = ' ' ∨ c = '\n' then current.toList ++ numbersFrom none cs
    else numbersFrom (some (36 * current.getD 0 + digitValue c)) cs

/-- The numbers in base 36 that a text writes between blanks. -/
def numbers (s : String) : List Nat :=
  numbersFrom none s.toList

/-- Ranges from distances and lengths, counted from a position. -/
def ofNumbers (position : Nat) : List Nat → Ranges
  | gap :: extra :: rest =>
    (position + gap, position + gap + extra) :: ofNumbers (position + gap + extra + 1) rest
  | _ => []

/-- The ranges that a text writes. -/
def ofText (s : String) : Ranges :=
  ofNumbers 0 (numbers s)

end Ranges

end Unicode

end RunReport
