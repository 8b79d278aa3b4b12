import RunReport.Json.Doc
import RunReport.Manifest.Setting
import RunReport.Text.Blank

/-!
# HJSON

Reading an HJSON text as settings.

This is JSON for people: commas may be left out, keys and texts need no quotation marks, and there
are comments. A text without marks goes to the end of its line. It is a number, a truth value or
nothing if it looks like one at a sign that could end it. The braces around a whole text may be
left out too.

## Main definitions

* `Hjson.bare`: A value without quotation marks.
* `Hjson.value`: Any value.
* `Hjson.read?`: The settings of a text.
-/

namespace RunReport

namespace Hjson

/-- What is read, and the text after it. -/
abbrev Step (α : Type) := Option (α × List Char)

/-- A text after the end of a comment of several lines. -/
def afterComment : List Char → List Char
  | [] => []
  | '*' :: '/' :: cs => cs
  | _ :: cs => afterComment cs

/-- A text without the blanks, line ends and comments it starts with. -/
def skip : Nat → List Char → List Char
  | 0, cs => cs
  | n + 1, cs =>
    match cs with
    | '#' :: rest => skip n (rest.dropWhile (· ≠ '\n'))
    | '/' :: '/' :: rest => skip n (rest.dropWhile (· ≠ '\n'))
    | '/' :: '*' :: rest => skip n (afterComment rest)
    | c :: rest => if c = ' ' ∨ c = '\t' ∨ c = '\n' ∨ c = '\r' then skip n rest else cs
    | [] => []

/-- A text from its next character on that counts. -/
def next (cs : List Char) : List Char :=
  skip (cs.length + 1) cs

/-- Whether a character is one of the signs of HJSON. -/
def isSign (c : Char) : Bool :=
  ['\x7b', '\x7d', '[', ']', ',', ':'].contains c

/-! ### Strings -/

/-- The number of four hexadecimal digits. -/
def unit (cs : List Char) : Step Nat :=
  match cs with
  | a :: b :: c :: d :: rest =>
    (Numeral.valueIn? 16 [a, b, c, d]).map (·, rest)
  | _ => none

/-- The character behind a backslash and a `u`, which may be written as two halves. -/
def numbered (cs : List Char) : Step Char :=
  match unit cs with
  | none => none
  | some (n, rest) =>
    if 0xD800 ≤ n ∧ n ≤ 0xDBFF then
      match rest with
      | '\\' :: 'u' :: more =>
        match unit more with
        | some (m, rest) =>
          if 0xDC00 ≤ m ∧ m ≤ 0xDFFF then
            some (Char.ofNat (0x10000 + (n - 0xD800) * 0x400 + (m - 0xDC00)), rest)
          else none
        | none => none
      | _ => none
    else if 0xDC00 ≤ n ∧ n ≤ 0xDFFF then none
    else some (Char.ofNat n, rest)

/-- What follows a backslash. -/
def escaped : List Char → Step Char
  | '"' :: cs => some ('"', cs)
  | '\\' :: cs => some ('\\', cs)
  | '/' :: cs => some ('/', cs)
  | 'b' :: cs => some ('\x08', cs)
  | 'f' :: cs => some ('\x0C', cs)
  | 'n' :: cs => some ('\n', cs)
  | 'r' :: cs => some ('\r', cs)
  | 't' :: cs => some ('\t', cs)
  | 'u' :: cs => numbered cs
  | _ => none

/-- A text after a string; `done` is read already, in reverse. -/
def string : Nat → List Char → List Char → Step String
  | 0, _, _ => none
  | n + 1, done, cs =>
    match cs with
    | '"' :: rest => some (String.ofList done.reverse, rest)
    | '\\' :: rest =>
      match escaped rest with
      | some (c, rest) => string n (c :: done) rest
      | none => none
    | c :: rest => string n (c :: done) rest
    | [] => none

/-- A text after a string of several lines, which ends with three marks. -/
def longString : List Char → List Char → Step (List Char)
  | _, [] => none
  | done, '\'' :: '\'' :: '\'' :: rest => some (done.reverse, rest)
  | done, c :: rest => if c = '\r' then longString done rest else longString (c :: done) rest

/-- The lines of a long string without the indentation of its start, and without the line end in
    front of its end. -/
def unindented (column : Nat) (cs : List Char) : String :=
  let blank (c : Char) : Bool := c = ' ' || c = '\t'
  let strip (l : List Char) : List Char := l.drop (min column (l.takeWhile blank).length)
  let lines := cs.splitOn '\n'
  let lines := match lines with
    | first :: rest => if first.all blank then rest.map strip else first :: rest.map strip
    | [] => []
  let lines := match lines.reverse with
    | last :: before => if last.all blank ∧ before ≠ [] then before.reverse else lines
    | [] => lines
  String.ofList (List.intercalate ['\n'] lines)

/-! ### Values -/

/-- The number that a text writes in the form of JSON. -/
def number? (text : String) : Option Setting :=
  match Json.read (Utf8.encode text.toList) with
  | .ok (.number n) => some (Setting.ofNumber n)
  | _ => none

/-- The value of a text without quotation marks, if it is no text. -/
def word? (done : List Char) : Option Setting :=
  let text := trimmed (String.ofList done.reverse)
  if text = "true" then some (.flag true)
  else if text = "false" then some (.flag false)
  else if text = "null" then some (.nothing true)
  else number? text

/-- Whether a value without quotation marks may end in front of a text. -/
def mayEnd : List Char → Bool
  | [] => true
  | '/' :: c :: _ => c = '/' || c = '*'
  | c :: _ => c = '\n' || c = '\r' || c = ',' || c = '\x7d' || c = ']' || c = '#'

/-- Whether a line ends in front of a text. -/
def isLineEnd : List Char → Bool
  | [] => true
  | c :: _ => c = '\n' || c = '\r'

/-- A value without quotation marks; `done` is read already, in reverse. -/
def bare (done : List Char) (cs : List Char) : Setting × List Char :=
  match if mayEnd cs then word? done else none with
  | some v => (v, cs)
  | none =>
    match cs with
    | [] => (.text (trimmed (String.ofList done.reverse)), [])
    | c :: rest =>
      if isLineEnd cs then (.text (trimmed (String.ofList done.reverse)), cs)
      else bare (c :: done) rest

/-- A key without quotation marks. -/
def bareKey (cs : List Char) : Step String :=
  let word := cs.takeWhile fun c => !(isSign c) && ' ' < c
  if word.isEmpty then none else some (String.ofList word, cs.drop word.length)

/-- A key and the colon behind it. -/
def key (cs : List Char) : Step String :=
  let k := match cs with
    | '"' :: rest => string (rest.length + 1) [] rest
    | _ => bareKey cs
  match k with
  | none => none
  | some (s, rest) =>
    match next rest with
    | ':' :: rest => some (s, rest)
    | _ => none

/-- A text without the comma it may start with. -/
def skipComma (cs : List Char) : List Char :=
  match next cs with
  | ',' :: rest => next rest
  | rest => rest

mutual

/-- A value. -/
def value : Nat → List Char → Step Setting
  | 0, _ => none
  | n + 1, cs =>
    match next cs with
    | [] => none
    | '"' :: rest => (string (rest.length + 1) [] rest).map fun (s, rest) => (.text s, rest)
    | '[' :: rest => (items n [] (next rest)).map fun (xs, rest) => (.list true xs, rest)
    | '\x7b' :: rest =>
      (members n false [] (next rest)).map fun (ms, rest) => (.table true ms, rest)
    | '\'' :: '\'' :: '\'' :: rest =>
      (longString [] rest).map fun (s, rest) => (.text (unindented 0 s), rest)
    | c :: rest => if isSign c then none else some (bare [] (c :: rest))

/-- The items of a list up to its closing bracket. -/
def items : Nat → List Setting → List Char → Step (List Setting)
  | 0, _, _ => none
  | n + 1, done, cs =>
    match cs with
    | ']' :: rest => some (done, rest)
    | _ =>
      match value n cs with
      | some (x, rest) => items n (done ++ [x]) (skipComma rest)
      | none => none

/-- The members of a table up to its closing brace, or to the end of the text. -/
def members : Nat → Bool → List (String × Setting) → List Char →
    Step (List (String × Setting))
  | 0, _, _, _ => none
  | n + 1, isOpen, done, cs =>
    match cs, isOpen with
    | [], true => some (done, [])
    | '\x7d' :: rest, false => some (done, rest)
    | _, _ =>
      match key cs with
      | none => none
      | some (k, rest) =>
        match value n rest with
        | some (v, rest) => members n isOpen (Setting.insert k v done) (skipComma rest)
        | none => none

end

/-- The settings of a text; a text that is no table has none. -/
def read? (text : String) : Option (List (String × Setting)) :=
  let cs := text.toList
  let fuel := 2 * cs.length + 2
  match (value fuel cs).filter fun (_, rest) => (next rest).isEmpty with
  | some (v, _) => some v.members
  | none => if (next cs).isEmpty then none else (members fuel true [] (next cs)).map (·.1)

end Hjson

end RunReport
