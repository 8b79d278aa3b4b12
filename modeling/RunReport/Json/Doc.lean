import RunReport.Json.Basic
import RunReport.Text.Utf8

/-!
# JSON Documents

Bytes as a JSON document, read as far as they go.

A record is decoded while its document is read, so of two faults the one that stands first counts,
whether it is a fault of the text or of the record. To keep the two apart, a `Doc` is what a text
would have said had it gone on: a tree that may break off, with the fault at the place where it
breaks off. What is asked of a part depends on its use. A part that is passed over must only have
the outer form of JSON. In a part that is used, a string must be text and a number must lie in
range, so a `Doc` keeps both verdicts. `Doc.strict` gives the value of a document that is used as a
whole; it must not be nested more than 127 deep.

## Main definitions

* `Json.Fault`: A text that is no JSON, or that ends too early.
* `Json.Doc`: A document that may break off.
* `Json.Doc.read`: The document that bytes write.
* `Json.Doc.passed`: The fault of a document that is passed over.
* `Json.Doc.strict`: The value of a document.
* `Json.read`: The value that bytes write.
-/

namespace RunReport

namespace Json

/-- What is wrong with a text that should be JSON. -/
inductive Fault
  | malformed
  | cutShort
  deriving DecidableEq

/-- A document that may break off. Where it does, the last part that is there has the fault. The
    fault of a string or number is for a part that is passed over. A key that breaks off is
    followed by a broken value, and `close` is the fault at the end of a list of parts. -/
inductive Doc
  | broken (fault : Fault)
  | null
  | bool (b : Bool)
  | number (value : Except Fault Number) (fault : Option Fault)
  | string (text : Except Fault String) (fault : Option Fault)
  | array (items : List Doc) (close : Option Fault)
  | object (members : List (Except Fault String × Doc)) (close : Option Fault)

namespace Doc

/-- What is read, and the bytes after it. -/
abbrev Step (α : Type) := Except Fault (α × List UInt8)

/-- Bytes without the blanks they start with. -/
def skipBlanks (bs : List UInt8) : List UInt8 :=
  bs.dropWhile fun b => b == 0x20 || b == 0x09 || b == 0x0A || b == 0x0D

/-! ### Strings -/

/-- The byte that a letter after a backslash stands for. -/
def simpleEscape? (b : UInt8) : Option UInt8 :=
  if b == 0x22 || b == 0x5C || b == 0x2F then some b
  else if b == 0x62 then some 0x08
  else if b == 0x66 then some 0x0C
  else if b == 0x6E then some 0x0A
  else if b == 0x72 then some 0x0D
  else if b == 0x74 then some 0x09
  else none

/-- The value of a hexadecimal digit. -/
def hexValue? (b : UInt8) : Option Nat :=
  let n := b.toNat
  if 0x30 ≤ n && n ≤ 0x39 then some (n - 0x30)
  else if 0x41 ≤ n && n ≤ 0x46 then some (n - 0x41 + 10)
  else if 0x61 ≤ n && n ≤ 0x66 then some (n - 0x61 + 10)
  else none

/-- A number of four hexadecimal digits. -/
def fourDigits : List UInt8 → Step Nat
  | a :: b :: c :: d :: rest =>
    match hexValue? a, hexValue? b, hexValue? c, hexValue? d with
    | some a, some b, some c, some d => .ok (((a * 16 + b) * 16 + c) * 16 + d, rest)
    | _, _, _, _ => .error .malformed
  | _ => .error .cutShort

/-- The second half of a pair of numbers that write one character. -/
def secondHalf : List UInt8 → Step Nat
  | [] => .error .cutShort
  | [b] => .error (if b == 0x5C then .cutShort else .malformed)
  | b :: u :: rest => if b == 0x5C && u == 0x75 then fourDigits rest else .error .malformed

/-- The character of a number, or of a number and the second half of its pair. -/
def numberedChar (bs : List UInt8) : Except Fault (List UInt8 × List UInt8) := do
  let (n, bs) ← fourDigits bs
  if 0xDC00 ≤ n ∧ n ≤ 0xDFFF then .error .malformed
  else if 0xD800 ≤ n ∧ n ≤ 0xDBFF then
    let (m, bs) ← secondHalf bs
    if 0xDC00 ≤ m ∧ m ≤ 0xDFFF then
      .ok (Utf8.encodeChar (Char.ofNat (0x10000 + (n - 0xD800) * 0x400 + (m - 0xDC00))), bs)
    else .error .malformed
  else .ok (Utf8.encodeChar (Char.ofNat n), bs)

/-- The bytes that an escape stands for, after its backslash. -/
def escape : List UInt8 → Step (List UInt8)
  | [] => .error .cutShort
  | b :: bs =>
    match simpleEscape? b with
    | some c => .ok ([c], bs)
    | none => if b == 0x75 then numberedChar bs else .error .malformed

/-- The end of an escape whose meaning does not matter. -/
def passedEscape : List UInt8 → Except Fault (List UInt8)
  | [] => .error .cutShort
  | b :: bs =>
    if (simpleEscape? b).isSome then .ok bs
    else if b == 0x75 then (fourDigits bs).map (·.2)
    else .error .malformed

/-- The bytes of a string after its opening quote. -/
def quoted : Nat → List UInt8 → Except Fault (List UInt8 × List UInt8)
  | 0, _ => .error .cutShort
  | _, [] => .error .cutShort
  | n + 1, b :: bs =>
    if b == 0x22 then .ok ([], bs)
    else if b == 0x5C then do
      let (c, bs) ← escape bs
      let (s, bs) ← quoted n bs
      .ok (c ++ s, bs)
    else if b < 0x20 then .error .malformed
    else do
      let (s, bs) ← quoted n bs
      .ok (b :: s, bs)

/-- The end of a string whose text does not matter. -/
def passedQuoted : Nat → List UInt8 → Except Fault (List UInt8)
  | 0, _ => .error .cutShort
  | _, [] => .error .cutShort
  | n + 1, b :: bs =>
    if b == 0x22 then .ok bs
    else if b == 0x5C then passedEscape bs >>= passedQuoted n
    else if b < 0x20 then .error .malformed
    else passedQuoted n bs

/-- The text of a string after its opening quote. -/
def quotedText (bs : List UInt8) : Except Fault String := do
  let (s, _) ← quoted (bs.length + 1) bs
  match Utf8.decode? s with
  | some cs => .ok (String.ofList cs)
  | none => .error .malformed

/-! ### Numbers -/

/-- Whether a byte is a digit. -/
def isDigit (b : UInt8) : Bool :=
  0x30 ≤ b && b ≤ 0x39

/-- One or more digits: after a number that breaks off here the text has ended or is no number. -/
def someDigits (bs : List UInt8) : Step (List Nat) :=
  let digits := bs.takeWhile isDigit
  match digits, bs with
  | [], [] => .error .cutShort
  | [], _ => .error .malformed
  | _, _ => .ok (digits.map fun b => b.toNat - 0x30, bs.drop digits.length)

/-- A number in its parts: sign, digits, digits after the point, exponent. -/
structure Decimal where
  negative : Bool
  whole : List Nat
  fraction : Option (List Nat) := none
  exponent : Option Int := none

/-- The number that digits write. -/
def ofDigits (digits : List Nat) : Nat :=
  digits.foldl (fun n d => 10 * n + d) 0

/-- The digits before the point. Only a lone zero may start with zero. -/
def wholeDigits (bs : List UInt8) : Except Fault (List Nat × List UInt8) := do
  let (digits, bs) ← someDigits bs
  if 1 < digits.length ∧ digits.head? = some 0 then .error .malformed else .ok (digits, bs)

/-- The digits after a point, if there is a point. -/
def fractionDigits : List UInt8 → Step (Option (List Nat))
  | 0x2E :: bs => (someDigits bs).map fun (digits, bs) => (some digits, bs)
  | bs => .ok (none, bs)

/-- A sign and digits. -/
def signedDigits : List UInt8 → Step Int
  | 0x2B :: bs => (someDigits bs).map fun (digits, bs) => ((ofDigits digits : Int), bs)
  | 0x2D :: bs => (someDigits bs).map fun (digits, bs) => (-(ofDigits digits : Int), bs)
  | bs => (someDigits bs).map fun (digits, bs) => ((ofDigits digits : Int), bs)

/-- The exponent after the letter e, if there is one. -/
def exponentPart : List UInt8 → Step (Option Int)
  | 0x65 :: bs => (signedDigits bs).map fun (e, bs) => (some e, bs)
  | 0x45 :: bs => (signedDigits bs).map fun (e, bs) => (some e, bs)
  | bs => .ok (none, bs)

/-- A number in its parts. -/
def decimal (bs : List UInt8) : Except Fault (Decimal × List UInt8) := do
  let (negative, bs) := match bs with
    | 0x2D :: bs => (true, bs)
    | bs => (false, bs)
  let (whole, bs) ← wholeDigits bs
  let (fraction, bs) ← fractionDigits bs
  let (exponent, bs) ← exponentPart bs
  .ok ({ negative, whole, fraction, exponent }, bs)

/-- Appends digits to a number as long as it fits 64 bits: the number, and how many were taken. -/
def absorbed (start : Nat) : List Nat → Nat × Nat
  | [] => (start, 0)
  | d :: ds =>
    if 10 * start + d < Word.count then
      let (n, taken) := absorbed (10 * start + d) ds
      (n, taken + 1)
    else (start, 0)

/-- A number times a power of ten, in floating point: one multiplication or division by a power that
    has a floating-point number, after divisions by the largest one for a very small number. `none`
    is a number out of range. -/
def scaled : Nat → Binary64 → Int → Option Binary64
  | 0, x, _ => some x
  | n + 1, x, exponent =>
    if exponent.natAbs ≤ 308 then
      let power := Binary64.ofDecimal false 1 exponent.natAbs
      if exponent < 0 then some (x.div power)
      else
        let y := x.mul power
        if y.isInfinite then none else some y
    else if x.isZero then some x
    else if 0 ≤ exponent then none
    else scaled n (x.div (Binary64.ofDecimal false 1 308)) (exponent + 308)

/-- A number with its sign. -/
def signed (negative : Bool) : Binary64 → Binary64
  | .finite _ m e => .finite negative m e
  | .infinite _ => .infinite negative
  | .nan => .nan

/-- The value of a number in floating point: digits that do not fit 64 bits are left out. -/
def Decimal.real (n : Decimal) : Except Fault Binary64 :=
  let (a, taken) := absorbed 0 n.whole
  let (b, added) := absorbed a (n.fraction.getD [])
  let exponent : Int := ((n.whole.length : Int) - taken) - added + n.exponent.getD 0
  match scaled 4 (Binary64.ofInt b) exponent with
  | some x => .ok (signed n.negative x)
  | none => .error .malformed

/-- The value of a number. -/
def Decimal.value (n : Decimal) : Except Fault Number :=
  let whole := ofDigits n.whole
  if n.fraction.isNone ∧ n.exponent.isNone ∧ !n.negative ∧ whole < Word.count then
    .ok (.natural whole)
  else if n.fraction.isNone ∧ n.exponent.isNone ∧ n.negative ∧ 0 < whole ∧
      whole ≤ Word.signedLimit then
    .ok (.negative whole)
  else n.real.map .real

/-! ### Documents -/

/-- A document, and the bytes after it unless it broke off. -/
abbrev Reading := Doc × Option (List UInt8)

/-- The rest of a word whose first letter was read. -/
def word (d : Doc) : List UInt8 → List UInt8 → Reading
  | [], bs => (d, some bs)
  | _ :: _, [] => (.broken .cutShort, none)
  | w :: ws, b :: bs => if w == b then word d ws bs else (.broken .malformed, none)

/-- A string after its opening quote. -/
def stringDoc (bs : List UInt8) : Reading :=
  match passedQuoted (bs.length + 1) bs with
  | .ok rest => (.string (quotedText bs) none, some rest)
  | .error f => (.string (quotedText bs) (some f), none)

/-- A number. -/
def numberDoc (bs : List UInt8) : Reading :=
  match decimal bs with
  | .ok (n, rest) => (.number n.value none, some rest)
  | .error f => (.number (.error f) (some .malformed), none)

mutual

/-- The document that bytes start with. -/
def readDoc : Nat → List UInt8 → Reading
  | 0, _ => (.broken .cutShort, none)
  | n + 1, bs =>
    match skipBlanks bs with
    | [] => (.broken .cutShort, none)
    | b :: rest =>
      if b == 0x6E then word .null [0x75, 0x6C, 0x6C] rest
      else if b == 0x74 then word (.bool true) [0x72, 0x75, 0x65] rest
      else if b == 0x66 then word (.bool false) [0x61, 0x6C, 0x73, 0x65] rest
      else if b == 0x22 then stringDoc rest
      else if b == 0x2D || isDigit b then numberDoc (b :: rest)
      else if b == 0x5B then
        match skipBlanks rest with
        | 0x5D :: rest => (.array [] none, some rest)
        | [] => (.array [] (some .cutShort), none)
        | rest =>
          match readItems n rest with
          | (items, .ok rest) => (.array items none, some rest)
          | (items, .error f) => (.array items (some f), none)
      else if b == 0x7B then
        match skipBlanks rest with
        | 0x7D :: rest => (.object [] none, some rest)
        | rest =>
          match readMembers n rest with
          | (members, .ok rest) => (.object members none, some rest)
          | (members, .error f) => (.object members (some f), none)
      else (.broken .malformed, none)

/-- The items of an array that is not empty, and the bytes after its end. -/
def readItems : Nat → List UInt8 → List Doc × Except Fault (List UInt8)
  | 0, _ => ([], .error .cutShort)
  | n + 1, bs =>
    match readDoc n bs with
    | (d, none) => ([d], .error .cutShort)
    | (d, some rest) =>
      match skipBlanks rest with
      | [] => ([d], .error .cutShort)
      | 0x5D :: rest => ([d], .ok rest)
      | 0x2C :: rest =>
        match readItems n rest with
        | (ds, close) => (d :: ds, close)
      | _ => ([d], .error .malformed)

/-- The members of an object that is not empty, and the bytes after its end. -/
def readMembers : Nat → List UInt8 → List (Except Fault String × Doc) × Except Fault (List UInt8)
  | 0, _ => ([], .error .cutShort)
  | n + 1, bs =>
    match skipBlanks bs with
    | [] => ([], .error .cutShort)
    | 0x22 :: rest =>
      let key := quotedText rest
      match passedQuoted (rest.length + 1) rest with
      | .error f => ([(key, .broken f)], .error .cutShort)
      | .ok rest =>
        match skipBlanks rest with
        | [] => ([(key, .broken .cutShort)], .error .cutShort)
        | 0x3A :: rest =>
          match readDoc n rest with
          | (d, none) => ([(key, d)], .error .cutShort)
          | (d, some rest) =>
            match skipBlanks rest with
            | [] => ([(key, d)], .error .cutShort)
            | 0x7D :: rest => ([(key, d)], .ok rest)
            | 0x2C :: rest =>
              match readMembers n rest with
              | (ms, close) => ((key, d) :: ms, close)
            | _ => ([(key, d)], .error .malformed)
        | _ => ([(key, .broken .malformed)], .error .cutShort)
    | _ => ([], .error .malformed)

end

/-- The document that bytes write, and whether anything but blanks follows it. -/
def read (bs : List UInt8) : Doc × Option Fault :=
  match readDoc (2 * bs.length + 2) bs with
  | (d, none) => (d, none)
  | (d, some rest) => (d, if (skipBlanks rest).isEmpty then none else some .malformed)

mutual

/-- The fault of a document that is passed over. -/
def passed : Doc → Option Fault
  | broken f => some f
  | null => none
  | bool _ => none
  | number _ f => f
  | string _ f => f
  | array items close => (passedItems items).or close
  | object members close => (passedMembers members).or close

/-- The first fault of items that are passed over. -/
def passedItems : List Doc → Option Fault
  | [] => none
  | d :: ds => (passed d).or (passedItems ds)

/-- The first fault of members that are passed over. -/
def passedMembers : List (Except Fault String × Doc) → Option Fault
  | [] => none
  | (_, d) :: rest => (passed d).or (passedMembers rest)

end

/-- Nothing, or a fault. -/
def closed : Option Fault → Except Fault Unit
  | none => .ok ()
  | some f => .error f

mutual

/-- The value of a document in which fewer than `room` arrays and objects may be nested. -/
def strict (room : Nat) : Doc → Except Fault Json
  | broken f => .error f
  | null => .ok .null
  | bool b => .ok (.bool b)
  | number v _ => v.map .number
  | string t _ => t.map .string
  | array items close =>
    if room ≤ 1 then .error .malformed
    else do
      let vs ← strictItems (room - 1) items
      closed close
      .ok (.array vs)
  | object members close =>
    if room ≤ 1 then .error .malformed
    else do
      let ms ← strictMembers (room - 1) members
      closed close
      .ok (.object ms)

/-- The values of items. -/
def strictItems (room : Nat) : List Doc → Except Fault (List Json)
  | [] => .ok []
  | d :: ds => do
    let v ← strict room d
    let vs ← strictItems room ds
    .ok (v :: vs)

/-- The values of members. -/
def strictMembers (room : Nat) :
    List (Except Fault String × Doc) → Except Fault (List (String × Json))
  | [] => .ok []
  | (k, d) :: rest => do
    let k ← k
    let v ← strict room d
    let ms ← strictMembers room rest
    .ok ((k, v) :: ms)

end

/-- One more than the number of arrays and objects that may be nested in a document. -/
def fullRoom : Nat := 128

mutual

/-- The document of a value: it does not break off. -/
def ofJson : Json → Doc
  | .null => null
  | .bool b => bool b
  | .number n => number (.ok n) none
  | .string s => string (.ok s) none
  | .array items => array (ofItems items) none
  | .object members => object (ofMembers members) none

/-- The documents of values. -/
def ofItems : List Json → List Doc
  | [] => []
  | v :: vs => ofJson v :: ofItems vs

/-- The documents of members. -/
def ofMembers : List (String × Json) → List (Except Fault String × Doc)
  | [] => []
  | (k, v) :: rest => (.ok k, ofJson v) :: ofMembers rest

end

end Doc

/-- The value that bytes write. -/
def read (bs : List UInt8) : Except Fault Json := do
  let (d, after) := Doc.read bs
  let v ← d.strict Doc.fullRoom
  Doc.closed after
  .ok v

end Json

end RunReport
