import RunReport.Manifest.Setting
import RunReport.Text.Blank
import RunReport.Unicode.Lowercase

/-!
# INI

Reading an INI text as settings.

Every value is a text and stands behind an equals sign or a colon, up to the end of its line.
Sections are tables. The names of keys and sections are taken in lower case, and a backslash
changes what the next character means.

## Main definitions

* `Ini.textUntil`: A text up to one of some characters.
* `Ini.read?`: The settings of a text.
-/

namespace RunReport

namespace Ini

/-- What is read, and the text from the character on that ends it. -/
abbrev Step (α : Type) := Option (α × List Char)

/-- What stands behind a backslash; at the end of a line it stands for nothing. -/
def escaped : List Char → Step (List Char)
  | '0' :: cs => some (['\x00'], cs)
  | 'a' :: cs => some (['\x07'], cs)
  | 'b' :: cs => some (['\x08'], cs)
  | 't' :: cs => some (['\t'], cs)
  | 'r' :: cs => some (['\r'], cs)
  | 'n' :: cs => some (['\n'], cs)
  | '\n' :: _ :: cs => some ([], cs)
  | 'x' :: a :: b :: c :: d :: cs =>
    match Numeral.valueIn? 16 [a, b, c, d] with
    | some n => if n.isValidChar then some ([Char.ofNat n], cs) else none
    | none => none
  | 'x' :: _ => none
  | c :: cs => some ([c], cs)
  | [] => none

/-- The text up to one of some characters; `atEnd` says whether the end of the text will do. -/
def textUntil (ends : List Char) (atEnd : Bool) : Nat → List Char → List Char → Step (List Char)
  | 0, _, _ => none
  | n + 1, done, cs =>
    match cs with
    | [] => if atEnd then some (done.reverse, []) else none
    | c :: rest =>
      if ends.contains c then some (done.reverse, cs)
      else if c = '\\' then
        match escaped rest with
        | some (xs, rest) => textUntil ends atEnd n (xs.reverse ++ done) rest
        | none => none
      else textUntil ends atEnd n (c :: done) rest

/-- The text up to one of some characters. -/
def upTo (ends : List Char) (cs : List Char) : Step (List Char) :=
  textUntil ends false (cs.length + 1) [] cs

/-- The rest of a line. -/
def line (cs : List Char) : Step (List Char) :=
  textUntil ['\n', '\r'] true (cs.length + 1) [] cs

/-- A value in marks, with what follows it on the line. -/
def marked (mark : Char) (cs : List Char) : Step (List Char) :=
  match upTo [mark] cs with
  | some (s, rest) => (line (rest.drop 1)).map fun (more, rest) => (s ++ more, rest)
  | none => none

/-- The value behind an equals sign. -/
def value (cs : List Char) : Step String :=
  let v := match cs.dropWhile fun c => Text.isBlank c && c ≠ '\n' && c ≠ '\r' with
    | '"' :: rest => marked '"' rest
    | '\'' :: rest => marked '\'' rest
    | rest => line rest
  v.map fun (s, rest) => (trimmed (String.ofList s), rest)

/-- A name in lower case, without the blanks around it. -/
def name (cs : List Char) : String :=
  Unicode.Lowercase.text (trimmed (String.ofList cs))

/-- Members with one more value, in a section or outside of all. -/
def put (heading : Option String) (key value : String) (ms : List (String × Setting)) :
    List (String × Setting) :=
  match heading with
  | none => Setting.insert key (.text value) ms
  | some s =>
    let sub := ((Setting.member? s ms).map Setting.members).getD []
    Setting.insert s (.table true (Setting.insert key (.text value) sub)) ms

/-- Members with a section, which may be empty. -/
def enter (heading : String) (ms : List (String × Setting)) : List (String × Setting) :=
  match Setting.member? heading ms with
  | some (.table _ _) => ms
  | _ => Setting.insert heading (.table true []) ms

/-- The settings of the rest of a text in a section. -/
def lines : Nat → Option String → List (String × Setting) → List Char →
    Option (List (String × Setting))
  | 0, _, _, _ => none
  | n + 1, current, ms, cs =>
    match cs.dropWhile Text.isBlank with
    | [] => some ms
    | c :: rest =>
      if c = ';' ∨ c = '#' then lines n current ms ((rest.dropWhile (· ≠ '\n')).drop 1)
      else if c = '[' then
        match upTo [']'] rest with
        | some (s, rest) => lines n (some (name s)) (enter (name s) ms) (rest.drop 1)
        | none => none
      else if c = '=' ∨ c = ':' then none
      else
        match upTo ['=', ':'] (c :: rest) with
        | none => none
        | some (k, rest) =>
          match (name k).isEmpty, value (rest.drop 1) with
          | false, some (v, rest) => lines n current (put current (name k) v ms) rest
          | _, _ => none

/-- The settings of a text. -/
def read? (text : String) : Option (List (String × Setting)) :=
  let cs := text.toList
  lines (cs.length + 1) none [] cs

end Ini

end RunReport
