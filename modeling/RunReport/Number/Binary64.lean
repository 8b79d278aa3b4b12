import RunReport.Text.Numeral

/-!
# Binary Floating-Point Numbers

Numbers with a fraction, as a configuration file may hold them: 53 binary digits, and an exponent
of eleven bits.

A finite number is an integer times a power of two. `ofRatio` rounds any fraction to the nearest
such number, a half to the even neighbour, and everything else is derived from it in exact
integers. The text of a number has the fewest digits that read back as it: of one digit, two digits
and so on up to 17, `shortest` takes the first grid of decimals that has a point in the interval of
the numbers that round to it. It is always written out in full, without an exponent.

## Main definitions

* `Binary64`: A finite number, an infinity, or no number.
* `Binary64.ofRatio`: The nearest number to a fraction.
* `Binary64.ofDecimal`: The nearest number to an integer times a power of ten.
* `Binary64.text`: The shortest decimal that reads back.
-/

namespace RunReport

/-- A floating-point number of 64 bits. A finite one is its significand, below 2⁵³, times two to
    its exponent, which is at least −1074. -/
inductive Binary64
  | finite (negative : Bool) (significand : Nat) (exponent : Int)
  | infinite (negative : Bool)
  | nan
  deriving DecidableEq

namespace Binary64

/-- A quotient rounded to the nearest integer, a half to the even one. -/
def roundedQuotient (num den : Nat) : Nat :=
  let q := num / den
  let twice := 2 * (num % den)
  if den < twice ∨ twice = den ∧ q % 2 = 1 then q + 1 else q

/-- A quotient divided by a power of two, rounded. -/
def roundedShift (num den : Nat) (exponent : Int) : Nat :=
  if exponent < 0 then roundedQuotient (num * Nat.pow 2 exponent.natAbs) den
  else roundedQuotient num (den * Nat.pow 2 exponent.natAbs)

/-- The exponent at which a quotient has 53 binary digits, or the least exponent there is. -/
def exponentOf (num den : Nat) : Int :=
  let guess : Int := (num.log2 : Int) - den.log2 - 52
  let short : Bool :=
    if guess < 0 then num * Nat.pow 2 guess.natAbs < den * Nat.pow 2 52
    else num < den * Nat.pow 2 guess.natAbs * Nat.pow 2 52
  max (if short then guess - 1 else guess) (-1074)

/-- The nearest number to a fraction with a positive denominator. -/
def ofRatio (negative : Bool) (num den : Nat) : Binary64 :=
  if num = 0 then finite negative 0 (-1074)
  else
    let e := exponentOf num den
    let m := roundedShift num den e
    let (m, e) := if m = Nat.pow 2 53 then (Nat.pow 2 52, e + 1) else (m, e)
    if 971 < e then infinite negative else finite negative m e

/-- The nearest number to an integer times a power of ten. Far beyond the range the power itself is
    not formed. -/
def ofDecimal (negative : Bool) (digits : Nat) (exponent : Int) : Binary64 :=
  let size : Int := (Numeral.decimal digits).length + exponent
  if digits = 0 ∨ size < -400 then finite negative 0 (-1074)
  else if 400 < size then infinite negative
  else if exponent < 0 then ofRatio negative digits (Nat.pow 10 exponent.natAbs)
  else ofRatio negative (digits * Nat.pow 10 exponent.natAbs) 1

/-- The nearest number to an integer. -/
def ofInt (i : Int) : Binary64 :=
  ofRatio (i < 0) i.natAbs 1

/-- The size of a finite number as a fraction. -/
def ratio (significand : Nat) (exponent : Int) : Nat × Nat :=
  if exponent < 0 then (significand, Nat.pow 2 exponent.natAbs)
  else (significand * Nat.pow 2 exponent.natAbs, 1)

/-- Whether a number is zero, of either sign. -/
def isZero : Binary64 → Bool
  | finite _ m _ => m == 0
  | _ => false

/-- Whether a number is an infinity. -/
def isInfinite : Binary64 → Bool
  | infinite _ => true
  | _ => false

/-- The product of two finite numbers, rounded; of others the first. -/
def mul : Binary64 → Binary64 → Binary64
  | finite s m e, finite t n f =>
    let (a, b) := ratio m e
    let (c, d) := ratio n f
    ofRatio (s != t) (a * c) (b * d)
  | x, _ => x

/-- The quotient of two finite numbers, the second not zero, rounded; of others the first. -/
def div : Binary64 → Binary64 → Binary64
  | finite s m e, finite t n f =>
    let (a, b) := ratio m e
    let (c, d) := ratio n f
    ofRatio (s != t) (a * d) (b * c)
  | x, _ => x

/-- The power of ten at or below a fraction. -/
def magnitude (num den : Nat) : Int :=
  if den ≤ num then ((Numeral.decimal (num / den)).length : Int) - 1
  else -((Numeral.decimal ((den - 1) / num)).length : Int)

/-- The decimals `c · 10^k` beside a number that round to it: the nearer one is first. -/
def candidates (m : Nat) (e k : Int) : List Nat :=
  -- Quarters of the last binary digit are the unit: the interval ends at halves or a quarter.
  let ofTen := Nat.pow 10 k.natAbs
  let ofTwo := Nat.pow 2 (e - 2).natAbs
  let tens := (if k < 0 then 1 else ofTen) * (if e < 2 then ofTwo else 1)
  let twos := (if k < 0 then ofTen else 1) * (if e < 2 then 1 else ofTwo)
  let low := (if m = Nat.pow 2 52 ∧ -1074 < e then 4 * m - 1 else 4 * m - 2) * twos
  let high := (4 * m + 2) * twos
  let value := 4 * m * twos
  let rounds (c : Nat) : Bool :=
    if m % 2 = 0 then low ≤ c * tens && c * tens ≤ high else low < c * tens && c * tens < high
  let below := value / tens
  let pair :=
    if (below + 1) * tens - value ≤ value - below * tens then [below + 1, below]
    else [below, below + 1]
  pair.filter rounds

/-- The shortest decimal that reads back as a positive number: its digits and the power of ten that
    they are counted in. -/
def shortest (m : Nat) (e : Int) : Nat × Int :=
  let (num, den) := ratio m e
  let top := magnitude num den
  let found := (List.range 17).findSome? fun (n : Nat) =>
    (candidates m e (top - n)).head?.map fun c => (c, top - (n : Int))
  found.getD (0, 0)

/-- Digits without the zeros they end in, and how many zeros these were. -/
def withoutZeros (digits : List Char) : List Char × Nat :=
  let kept := (digits.reverse.dropWhile (· = '0')).reverse
  (kept, digits.length - kept.length)

/-- Digits times a power of ten, written out. -/
def positional (digits : Nat) (exponent : Int) : String :=
  let (ds, zeros) := withoutZeros (Numeral.decimal digits)
  let exponent := exponent + zeros
  if 0 ≤ exponent then String.ofList (ds ++ List.replicate exponent.natAbs '0')
  else
    let places := exponent.natAbs
    let ds := List.replicate (places + 1 - ds.length) '0' ++ ds
    String.ofList (ds.take (ds.length - places) ++ '.' :: ds.drop (ds.length - places))

/-- The shortest decimal that reads back as a number. -/
def text : Binary64 → String
  | nan => "NaN"
  | infinite negative => if negative then "-inf" else "inf"
  | finite negative m e =>
    let size := if m = 0 then "0" else (let (c, k) := shortest m e; positional c k)
    if negative then "-" ++ size else size

end Binary64

end RunReport
