import RunReport.Number.Word

/-!
# Numerals

Whole numbers written in decimal digits, and reading them back within a limit.

A number in a query, a record or a manifest is read only if it fits the word it is meant for, so
every reader takes its limit as an argument and refuses a number beyond it. A leading plus sign and
leading zeros are allowed, and a minus sign only where the number may be negative. Digits are the
ten of ASCII.

## Main definitions

* `decimal`: The digits of a number.
* `valueOf?`: The number that a text of digits writes.
* `valueIn?`: The same in another base.
* `natural?`: A number below a limit, with an optional plus sign.
* `integer?`: A number of so many bits, with an optional sign.
-/

namespace RunReport

namespace Numeral

/-- The character of a digit. -/
def digit (n : Nat) : Char :=
  Char.ofNat ('0'.toNat + n % 10)

/-- The decimal digits of a number, without leading zeros. -/
def decimal (n : Nat) : List Char :=
  if n < 10 then [digit n] else decimal (n / 10) ++ [digit n]

/-- The value of a digit. -/
def valueOfDigit (c : Char) : Nat :=
  c.toNat - '0'.toNat

/-- The number that digits write after a number that was written before them. -/
def accumulate (start : Nat) (cs : List Char) : Nat :=
  cs.foldl (fun n c => 10 * n + valueOfDigit c) start

/-- The number that a text writes, if it is one or more digits. -/
def valueOf? (cs : List Char) : Option Nat :=
  if cs.isEmpty || !cs.all Char.isDigit then none else some (accumulate 0 cs)

/-- A text without one leading plus sign. -/
def withoutPlus : List Char → List Char
  | '+' :: cs => cs
  | cs => cs

/-- The number a text writes, if it is below a limit. -/
def natural? (limit : Nat) (cs : List Char) : Option Nat :=
  (valueOf? (withoutPlus cs)).filter (· < limit)

/-- The number a text writes, if it fits so many bits in two's complement. -/
def integer? (bits : Nat) : List Char → Option Int
  | '-' :: cs => ((valueOf? cs).filter (· ≤ Nat.pow 2 (bits - 1))).map fun n => -(n : Int)
  | cs => (natural? (Nat.pow 2 (bits - 1)) cs).map Int.ofNat

/-- A number below 2⁶⁴, as ids are. -/
def word? (cs : List Char) : Option UInt64 :=
  (natural? Word.count cs).map UInt64.ofNat

/-- The value of a digit in a base of up to 36. -/
def digitIn? (base : Nat) (c : Char) : Option Nat :=
  let n :=
    if '0' ≤ c ∧ c ≤ '9' then c.toNat - '0'.toNat
    else if 'a' ≤ c ∧ c ≤ 'z' then c.toNat - 'a'.toNat + 10
    else if 'A' ≤ c ∧ c ≤ 'Z' then c.toNat - 'A'.toNat + 10
    else base
  if n < base then some n else none

/-- The number that a text writes in a base, if it is one or more digits. -/
def valueIn? (base : Nat) (cs : List Char) : Option Nat :=
  if cs.isEmpty then none
  else (cs.mapM (digitIn? base)).map fun ds => ds.foldl (fun n d => base * n + d) 0

/-- The decimal digits of a number, as a string. -/
def text (n : Nat) : String :=
  String.ofList (decimal n)

/-- The decimal digits of an integer, after a minus sign if it is negative. -/
def signedText (i : Int) : String :=
  if i < 0 then "-" ++ text i.natAbs else text i.natAbs

/-- A number in at least so many digits, with zeros in front. -/
def padded (width n : Nat) : String :=
  let digits := decimal n
  String.ofList (List.replicate (width - digits.length) '0' ++ digits)

end Numeral

end RunReport
