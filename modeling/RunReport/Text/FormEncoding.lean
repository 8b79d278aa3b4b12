import RunReport.Text.Utf8

/-!
# The Encoding of Forms

Names and values in a query string.

Of all bytes only letters, digits and four signs stand for themselves. A blank is a plus sign, and
every other byte is written by its two hexadecimal digits. Reading is lenient: a percent sign
without two digits stands for itself, and bytes that are no text become replacement characters.

## Main definitions

* `FormEncoding.encode`: A text as part of a query.
* `FormEncoding.decode`: The text that part of a query writes.
* `FormEncoding.pairs`: The names and values of a query.
-/

namespace RunReport

namespace FormEncoding

/-- Whether a byte stands for itself. -/
def keeps (b : UInt8) : Bool :=
  (0x30 ≤ b && b ≤ 0x39) || (0x41 ≤ b && b ≤ 0x5A) || (0x61 ≤ b && b ≤ 0x7A) ||
    b == 0x2A || b == 0x2D || b == 0x2E || b == 0x5F

/-- A hexadecimal digit. -/
def hexDigit (n : Nat) : Char :=
  if n < 10 then Char.ofNat (0x30 + n) else Char.ofNat (0x41 + (n - 10))

/-- A byte by its two hexadecimal digits. -/
def percent (b : UInt8) : List Char :=
  ['%', hexDigit (b.toNat / 16), hexDigit (b.toNat % 16)]

/-- How a byte is written. -/
def encodeByte (b : UInt8) : List Char :=
  if keeps b then [Char.ofNat b.toNat] else if b == 0x20 then ['+'] else percent b

/-- Some bytes as part of a query. -/
def encodeBytes (bs : List UInt8) : List Char :=
  bs.flatMap encodeByte

/-- A text as part of a query. -/
def encode (s : String) : String :=
  String.ofList (encodeBytes (Utf8.encode s.toList))

/-- The value of a hexadecimal digit. -/
def hexValue? (b : UInt8) : Option UInt8 :=
  if 0x30 ≤ b && b ≤ 0x39 then some (b - 0x30)
  else if 0x41 ≤ b && b ≤ 0x46 then some (b - 0x41 + 10)
  else if 0x61 ≤ b && b ≤ 0x66 then some (b - 0x61 + 10)
  else none

/-- The byte that two hexadecimal digits write. -/
def byteOf? (high low : UInt8) : Option UInt8 :=
  match hexValue? high, hexValue? low with
  | some h, some l => some (16 * h + l)
  | _, _ => none

/-- The byte that a percent sign and two digits write. -/
def escaped? (b : UInt8) (rest : List UInt8) : Option UInt8 :=
  match rest with
  | high :: low :: _ => if b == 0x25 then byteOf? high low else none
  | _ => none

/-- Bytes with the percent signs resolved, after so many bytes that belong to one before. -/
def unescape : Nat → List UInt8 → List UInt8
  | _, [] => []
  | n + 1, _ :: bs => unescape n bs
  | 0, b :: bs =>
    match escaped? b bs with
    | some x => x :: unescape 2 bs
    | none => b :: unescape 0 bs

/-- The bytes that part of a query writes. -/
def decodeBytes (bs : List UInt8) : List UInt8 :=
  unescape 0 (bs.map fun b => if b == 0x2B then 0x20 else b)

/-- The text that part of a query writes. -/
def decode (bs : List UInt8) : String :=
  String.ofList (Utf8.decodeLossy (decodeBytes bs))

/-- Bytes cut at every occurrence of one. -/
def cutAt (sep : UInt8) : List UInt8 → List (List UInt8)
  | [] => [[]]
  | b :: bs =>
    if b == sep then [] :: cutAt sep bs
    else
      match cutAt sep bs with
      | part :: rest => (b :: part) :: rest
      | [] => [[b]]

/-- A name and a value with an equals sign between them; without one there is no value. -/
def pairOf (part : List UInt8) : String × String :=
  let name := part.takeWhile (· != 0x3D)
  (decode name, decode (part.drop (name.length + 1)))

/-- The names and values of a query. -/
def pairs (query : List Char) : List (String × String) :=
  ((cutAt 0x26 (Utf8.encode query)).filter (!·.isEmpty)).map pairOf

end FormEncoding

end RunReport
