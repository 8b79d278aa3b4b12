import RunReport.Text.Numeral
import RunReport.Url.Percent
import RunReport.Version

/-!
# Hosts

The name or number of a host in a URL, in its usual form.

A host of one of the common schemes is a name or an address. What an international name is in
letters of ASCII is left to a library, of which two things are known: a name in its usual form is
kept, and so is one of digits and points. A name whose last part is a number is an address of four
bytes, written in up to four numbers of base 8, 10 or 16, the last of which fills all bytes that are
left. In brackets stands an address of eight numbers, the longest run of zeros among them left out.
The hosts of other schemes have no meaning and are kept as they are.

## Main definitions

* `UrlFault`: What is wrong with a URL, with what is said of it.
* `HostLibrary`: International names in letters of ASCII.
* `Host.read`: A host of a common scheme.
* `Host.readOpaque`: A host of another scheme.
-/

namespace RunReport

/-- What is wrong with a text that should be a URL. -/
inductive UrlFault
  | relative
  | emptyHost
  | badName
  | badCharacter
  | badPort
  | badFourBytes
  | badEightNumbers
  deriving DecidableEq

/-- What is said of a fault. -/
def UrlFault.message : UrlFault → String
  | relative => "relative URL without a base"
  | emptyHost => "empty host"
  | badName => "invalid international domain name"
  | badCharacter => "invalid domain character"
  | badPort => "invalid port number"
  | badFourBytes => "invalid IPv4 address"
  | badEightNumbers => "invalid IPv6 address"

/-- International names in letters of ASCII. A name that has been brought into this form is kept,
    and so is a name of digits and points. -/
class HostLibrary where
  ascii? : List Char → Option (List Char)
  ascii?_ascii? : ∀ cs name, ascii? cs = some name → ascii? name = some name
  ascii?_numbers : ∀ cs : List Char, (∀ c ∈ cs, c.isDigit ∨ c = '.') → ascii? cs = some cs

namespace Host

/-! ### Addresses of four bytes -/

/-- One number of an address: its first characters tell the base, and nothing after them is zero. -/
def part? (cs : List Char) : Option Nat :=
  let inBase (base : Nat) (cs : List Char) : Option Nat :=
    if cs.isEmpty then some 0 else Numeral.valueIn? base cs
  match cs with
  | [] => none
  | ['0'] => some 0
  | '0' :: 'x' :: rest => inBase 16 rest
  | '0' :: 'X' :: rest => inBase 16 rest
  | '0' :: rest => inBase 8 rest
  | _ => inBase 10 cs

/-- The parts of a name, without an empty one at the end. -/
def nameParts (name : List Char) : List (List Char) :=
  let parts := segments '.' name
  if parts.getLast? = some [] then parts.dropLast else parts

/-- Whether the last part of a name is a number. -/
def endsInNumber (name : List Char) : Bool :=
  match (nameParts name).getLast? with
  | none => false
  | some [] => false
  | some last => last.all Char.isDigit || (part? last).isSome

/-- The address that a name with a number at its end writes. -/
def fourBytes? (name : List Char) : Option Nat := do
  let numbers ← (nameParts name).mapM part?
  let last ← numbers.getLast?
  let first := numbers.dropLast
  if 3 < first.length || Nat.pow 256 (4 - first.length) ≤ last || first.any (255 < ·) then none
  else some ((first.zipIdx.map fun (n, i) => n * Nat.pow 256 (3 - i)).foldl (· + ·) last)

/-- An address of four bytes as text. -/
def fourBytesText (n : Nat) : List Char :=
  joined '.' ([n / 16777216 % 256, n / 65536 % 256, n / 256 % 256, n % 256].map Numeral.decimal)

/-! ### Addresses of eight numbers -/

/-- A number of up to four hexadecimal digits. -/
def group? (cs : List Char) : Option Nat :=
  if 4 < cs.length then none else Numeral.valueIn? 16 cs

/-- A number below 256 without leading zeros. -/
def byte? (cs : List Char) : Option Nat :=
  if 1 < cs.length ∧ cs.head? = some '0' then none
  else (Numeral.valueOf? cs).filter (· < 256)

/-- Two numbers written as four bytes. -/
def bytePairs? (cs : List Char) : Option (List Nat) :=
  match (segments '.' cs).map byte? with
  | [some a, some b, some c, some d] => some [256 * a + b, 256 * c + d]
  | _ => none

/-- Numbers between colons. The last two may be written as four bytes, if the address ends here. -/
def groups? (atEnd : Bool) (cs : List Char) : Option (List Nat) :=
  if cs.isEmpty then some []
  else
    let parts := segments ':' cs
    let last := parts.getLast?.getD []
    if atEnd && last.contains '.' then do
      let front ← parts.dropLast.mapM group?
      let back ← bytePairs? last
      some (front ++ back)
    else parts.mapM group?

/-- What stands before and after the first two colons in a row. -/
def splitDouble : List Char → Option (List Char × List Char)
  | ':' :: ':' :: rest => some ([], rest)
  | c :: cs => (splitDouble cs).map fun (front, back) => (c :: front, back)
  | [] => none

/-- The eight numbers of an address; two colons in a row stand for zeros that are left out. -/
def eightNumbers? (cs : List Char) : Option (List Nat) :=
  match splitDouble cs with
  | none => (groups? true cs).filter (·.length = 8)
  | some (front, back) => do
    let a ← groups? false front
    let b ← groups? true back
    if a.length + b.length < 8 then
      some (a ++ List.replicate (8 - a.length - b.length) 0 ++ b)
    else none

/-- The digits of a number in base 16. -/
def hexDigits (n : Nat) : List Char :=
  if n < 16 then [FormEncoding.hexDigit n].map Char.toLower
  else hexDigits (n / 16) ++ [FormEncoding.hexDigit (n % 16)].map Char.toLower

/-- How many zeros stand in front. -/
def leadingZeros (ns : List Nat) : Nat :=
  (ns.takeWhile (· = 0)).length

/-- Where the longest run of zeros starts, and its length; the first of equal runs. -/
def longestZeros (ns : List Nat) : Nat × Nat :=
  (List.range ns.length).foldl (fun best i =>
    let n := leadingZeros (ns.drop i)
    if best.2 < n then (i, n) else best) (0, 0)

/-- An address of eight numbers as text, in brackets. -/
def eightNumbersText (ns : List Nat) : List Char :=
  let texts (ns : List Nat) : List Char := joined ':' (ns.map hexDigits)
  let (start, count) := longestZeros ns
  let inner :=
    if count < 2 then texts ns
    else texts (ns.take start) ++ [':', ':'] ++ texts (ns.drop (start + count))
  '[' :: inner ++ [']']

/-! ### Names -/

/-- The characters of ASCII that a name must not have. -/
def deniedInName (c : Char) : Bool :=
  c.toNat ≤ 0x20 || c.toNat = 0x7F ||
    ['%', '#', '/', ':', '<', '>', '?', '@', '[', '\\', ']', '^', '|'].contains c

/-- The characters that a host without meaning must not have. -/
def deniedInOpaque (c : Char) : Bool :=
  ['\x00', '\t', '\n', '\r', ' ', '#', '/', ':', '<', '>', '?', '@', '[', '\\', ']', '^',
    '|'].contains c

/-! ### Hosts -/

/-- An address in brackets, after the first of them. -/
def bracketed (cs : List Char) : Except UrlFault (List Char) :=
  match cs.reverse with
  | ']' :: inner =>
    match eightNumbers? inner.reverse with
    | some ns => .ok (eightNumbersText ns)
    | none => .error .badEightNumbers
  | _ => .error .badEightNumbers

/-- A name in letters of ASCII, or the address that it writes. -/
def ofName (name : List Char) : Except UrlFault (List Char) :=
  if name.isEmpty then .error .emptyHost
  else if name.any deniedInName then .error .badName
  else if endsInNumber name then
    match fourBytes? name with
    | some n => .ok (fourBytesText n)
    | none => .error .badFourBytes
  else .ok name

/-- The usual form of a host of a common scheme. -/
def read [HostLibrary] : List Char → Except UrlFault (List Char)
  | '[' :: inner => bracketed inner
  | cs =>
    match (Utf8.decode? (FormEncoding.unescape 0 (Utf8.encode cs))).bind HostLibrary.ascii? with
    | none => .error .badName
    | some name => ofName name

/-- The usual form of a host of another scheme. -/
def readOpaque : List Char → Except UrlFault (List Char)
  | '[' :: inner => bracketed inner
  | cs =>
    if cs.any deniedInOpaque then .error .badCharacter
    else .ok (Percent.encode Percent.nowhere cs)

end Host

end RunReport
