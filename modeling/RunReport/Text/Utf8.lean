/-!
# UTF-8

Characters as bytes, and bytes as characters.

A file or an escaped query is a string of bytes that need not be well formed. Two readers share one
step: `decode?` refuses a text with an ill-formed byte, as a record file must, and `decodeLossy`
puts one replacement character for every longest stretch that could have started a character, as
the URL standard asks of a form.

## Main definitions

* `encode`: The bytes of a text.
* `step`: The first character of some bytes, or how long the ill-formed stretch is.
* `decode?`: The text of well-formed bytes.
* `decodeLossy`: A text for any bytes.

## Theorems

* `length_drop_lt`: Reading on always shortens the input.
-/

namespace RunReport

namespace Utf8

/-- The bytes of one character. -/
def encodeChar (c : Char) : List UInt8 :=
  let n := c.toNat
  if n < 0x80 then [n.toUInt8]
  else if n < 0x800 then [(0xC0 + n / 64).toUInt8, (0x80 + n % 64).toUInt8]
  else if n < 0x10000 then
    [(0xE0 + n / 4096).toUInt8, (0x80 + n / 64 % 64).toUInt8, (0x80 + n % 64).toUInt8]
  else
    [(0xF0 + n / 262144).toUInt8, (0x80 + n / 4096 % 64).toUInt8, (0x80 + n / 64 % 64).toUInt8,
      (0x80 + n % 64).toUInt8]

/-- The bytes of a text. -/
def encode (cs : List Char) : List UInt8 :=
  cs.flatMap encodeChar

/-- The replacement character, which stands for bytes that are no text. -/
def replacement : Char := '\uFFFD'

/-- A byte that goes on a character. -/
def isTail (b : UInt8) : Bool :=
  0x80 ≤ b && b ≤ 0xBF

/-- The value of the six low bits of a byte that goes on a character. -/
def tailValue (b : UInt8) : Nat :=
  b.toNat % 64

/-- Whether a second byte may follow a first byte of a character of three or four bytes: the
    shorter spellings, the surrogates and the numbers above the last character are left out. -/
def secondFits (first second : UInt8) : Bool :=
  if first == 0xE0 then 0xA0 ≤ second && second ≤ 0xBF
  else if first == 0xED then 0x80 ≤ second && second ≤ 0x9F
  else if first == 0xF0 then 0x90 ≤ second && second ≤ 0xBF
  else if first == 0xF4 then 0x80 ≤ second && second ≤ 0x8F
  else isTail second

/-- Reads on after a first byte: the character, if it is well formed, and how many of the
    following bytes belong to it or to the stretch that is given up. -/
def step (first : UInt8) (rest : List UInt8) : Option Char × Nat :=
  if first < 0x80 then (some (Char.ofNat first.toNat), 0)
  else if 0xC2 ≤ first && first ≤ 0xDF then
    match rest with
    | b :: _ =>
      if isTail b then (some (Char.ofNat (first.toNat % 32 * 64 + tailValue b)), 1) else (none, 0)
    | [] => (none, 0)
  else if 0xE0 ≤ first && first ≤ 0xEF then
    match rest with
    | b :: more =>
      if secondFits first b then
        match more with
        | c :: _ =>
          if isTail c then
            (some (Char.ofNat (first.toNat % 16 * 4096 + tailValue b * 64 + tailValue c)), 2)
          else (none, 1)
        | [] => (none, 1)
      else (none, 0)
    | [] => (none, 0)
  else if 0xF0 ≤ first && first ≤ 0xF4 then
    match rest with
    | b :: more =>
      if secondFits first b then
        match more with
        | c :: most =>
          if isTail c then
            match most with
            | d :: _ =>
              if isTail d then
                (some (Char.ofNat (first.toNat % 8 * 262144 + tailValue b * 4096 +
                  tailValue c * 64 + tailValue d)), 3)
              else (none, 2)
            | [] => (none, 2)
          else (none, 1)
        | [] => (none, 1)
      else (none, 0)
    | [] => (none, 0)
  else (none, 0)

/-- Reading on always shortens the input. -/
theorem length_drop_lt (b : UInt8) (bs : List UInt8) (n : Nat) :
    (bs.drop n).length < (b :: bs).length := by
  simp only [List.length_drop, List.length_cons]
  omega

/-- The text of well-formed bytes. -/
def decode? : List UInt8 → Option (List Char)
  | [] => some []
  | b :: bs =>
    match step b bs with
    | (some c, n) => (decode? (bs.drop n)).map (c :: ·)
    | (none, _) => none
termination_by bs => bs.length
decreasing_by exact length_drop_lt b bs n

/-- A text for any bytes: each ill-formed stretch becomes one replacement character. -/
def decodeLossy : List UInt8 → List Char
  | [] => []
  | b :: bs => (step b bs).1.getD replacement :: decodeLossy (bs.drop (step b bs).2)
termination_by bs => bs.length
decreasing_by exact length_drop_lt b bs _

end Utf8

end RunReport
