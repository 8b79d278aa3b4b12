import RunReport.Manifest.Setting
import RunReport.Manifest.Toml.Moment
import RunReport.Number.RealText

/-!
# TOML

Reading a TOML text as settings.

A text is a list of lines with a key and a value, under headings that say which table they belong
to. A key may lead through several tables, and a heading in double brackets starts one more item of
a list of tables. No key and no heading may be given twice, and a table is either made by keys or
by headings.

## Main definitions

* `Toml.string`, `Toml.scalar`, `Toml.value`: Values.
* `Toml.Page`: What was read so far.
* `Toml.read?`: The settings of a text.
-/

namespace RunReport

namespace Toml

/-- What is read, and the text after it. -/
abbrev Step (α : Type) := Option (α × List Char)

/-- Whether a character is a blank on a line. -/
def isGap (c : Char) : Bool :=
  c = ' ' || c = '\t'

/-- A text without the blanks it starts with. -/
def skipGaps (cs : List Char) : List Char :=
  cs.dropWhile isGap

/-- Whether a character may stand in a comment. -/
def inComment (c : Char) : Bool :=
  c = '\t' || ' ' ≤ c

/-- Whether a character may stand in a string as it is. -/
def inString (c : Char) : Bool :=
  inComment c && c ≠ '\x7f'

/-- A text without the comment it may start with. -/
def skipComment : List Char → List Char
  | '#' :: cs => cs.dropWhile inComment
  | cs => cs

/-- A text without the blanks, line ends and comments it starts with. -/
def skipLines : Nat → List Char → List Char
  | 0, cs => cs
  | n + 1, cs =>
    match skipComment (skipGaps cs) with
    | '\n' :: rest => skipLines n rest
    | rest => rest

/-- A text from the next line on, if its line has ended but for a comment. -/
def finishLine (cs : List Char) : Option (List Char) :=
  match skipComment (skipGaps cs) with
  | [] => some []
  | '\n' :: rest => some rest
  | _ => none

/-! ### Strings -/

/-- The character of a number in so many hexadecimal digits. -/
def numbered (length : Nat) (cs : List Char) : Step Char :=
  match Numeral.valueIn? 16 (cs.take length) with
  | some n =>
    if n.isValidChar ∧ length ≤ cs.length then some (Char.ofNat n, cs.drop length) else none
  | none => none

/-- What follows a backslash. -/
def escaped : List Char → Step Char
  | 'b' :: cs => some ('\x08', cs)
  | 't' :: cs => some ('\t', cs)
  | 'n' :: cs => some ('\n', cs)
  | 'f' :: cs => some ('\x0C', cs)
  | 'r' :: cs => some ('\r', cs)
  | '"' :: cs => some ('"', cs)
  | '\\' :: cs => some ('\\', cs)
  | 'u' :: cs => numbered 4 cs
  | 'U' :: cs => numbered 8 cs
  | _ => none

/-- A text after a string of one line; `done` is read already, in reverse. -/
def lineString (mark : Char) : Nat → List Char → List Char → Step (List Char)
  | 0, _, _ => none
  | _ + 1, _, [] => none
  | n + 1, done, c :: cs =>
    if c = mark then some (done.reverse, cs)
    else if c = '\\' ∧ mark = '"' then
      match escaped cs with
      | some (x, rest) => lineString mark n (x :: done) rest
      | none => none
    else if inString c then lineString mark n (c :: done) cs
    else none

/-- A text after a string of several lines. -/
def longString (mark : Char) : Nat → List Char → List Char → Step (List Char)
  | 0, _, _ => none
  | _ + 1, _, [] => none
  | n + 1, done, c :: cs =>
    if c = mark ∧ cs.take 2 = [mark, mark] then some (done.reverse, cs.drop 2)
    else if c = '\\' ∧ mark = '"' then
      match finishLine cs with
      | some rest =>
        if (skipGaps cs).head? = some '\n' then
          longString mark n done (rest.dropWhile fun x => isGap x || x = '\n')
        else none
      | none =>
        match escaped cs with
        | some (x, rest) => longString mark n (x :: done) rest
        | none => none
    else if c = '\n' ∨ inString c then longString mark n (c :: done) cs
    else none

/-- A string. -/
def string (cs : List Char) : Step String :=
  let read (mark : Char) (rest : List Char) : Step (List Char) :=
    if rest.take 2 = [mark, mark] then
      match rest.drop 2 with
      | '\n' :: body => longString mark (body.length + 1) [] body
      | body => longString mark (body.length + 1) [] body
    else lineString mark (rest.length + 1) [] rest
  let text := match cs with
    | '"' :: rest => read '"' rest
    | '\'' :: rest => read '\'' rest
    | _ => none
  text.map fun (s, rest) => (String.ofList s, rest)

/-! ### Keys -/

/-- Whether a character may stand in a key without quotation marks. -/
def isKeyChar (c : Char) : Bool :=
  c.isAlphanum || c = '_' || c = '-'

/-- One part of a key. -/
def keyPart (cs : List Char) : Step String :=
  let word := cs.takeWhile isKeyChar
  if word.isEmpty then
    if cs.take 3 = ['"', '"', '"'] ∨ cs.take 3 = ['\'', '\'', '\''] then none else string cs
  else some (String.ofList word, cs.dropWhile isKeyChar)

/-- A key, which may have several parts. -/
def key : Nat → List Char → Step (List String)
  | 0, _ => none
  | n + 1, cs =>
    match keyPart cs with
    | none => none
    | some (part, rest) =>
      match skipGaps rest with
      | '.' :: more => (key n (skipGaps more)).map fun (parts, rest) => (part :: parts, rest)
      | rest => some ([part], rest)

/-! ### Values -/

/-- Digits without the lines between them, each of which has a digit on both sides. -/
def withoutLines (cs : List Char) : Option (List Char) :=
  let parts := cs.splitOn '_'
  if parts.length ≤ 1 ∨ parts.all fun p =>
      (p.head?.map Char.isAlphanum).getD false && (p.getLast?.map Char.isAlphanum).getD false
  then some parts.flatten else none

/-- Whether digits start with a zero that is not the only one. -/
def hasLeadingZero (cs : List Char) : Bool :=
  match (Binary64.sign cs).2 with
  | '0' :: c :: _ => c.isDigit
  | _ => false

/-- An integer within 64 bits. -/
def integer? (cs : List Char) : Option Int :=
  let within (n : Option Nat) : Option Int := (n.filter (· < Word.signedLimit)).map Int.ofNat
  match cs with
  | '0' :: 'x' :: ds => within (Numeral.valueIn? 16 ds)
  | '0' :: 'o' :: ds => within (Numeral.valueIn? 8 ds)
  | '0' :: 'b' :: ds => within (Numeral.valueIn? 2 ds)
  | _ => if hasLeadingZero cs then none else Numeral.integer? 64 cs

/-- A number with a point between digits or with an exponent, or a word for a number. Only a word
    can stand for infinity. -/
def real? (cs : List Char) : Option Binary64 :=
  let size := (Binary64.sign cs).2
  let isPointed : Bool := match size.dropWhile Char.isDigit with
    | '.' :: c :: _ => c.isDigit
    | c :: _ => c = 'e' || c = 'E'
    | [] => false
  if ["inf".toList, "nan".toList].contains size then Binary64.read? cs
  else if (size.head?.map Char.isDigit).getD false ∧ isPointed ∧ hasLeadingZero cs = false then
    (Binary64.read? cs).filter (!·.isInfinite)
  else none

/-- Whether a text starts with a date or a time. -/
def isDateOrTime (cs : List Char) : Bool :=
  let digits := (cs.takeWhile Char.isDigit).length
  (digits == 4 && cs[4]? == some '-') || (digits == 2 && cs[2]? == some ':')

/-- The value of a word. -/
def scalar (cs : List Char) : Option Setting :=
  if cs = "true".toList then some (.flag true)
  else if cs = "false".toList then some (.flag false)
  else if isDateOrTime cs then (moment? cs).map .text
  else
    match withoutLines cs with
    | none => none
    | some ds =>
      match integer? ds with
      | some i => some (.int i)
      | none => (real? ds).map .real

/-- A word up to the sign that ends it; between a date and a time there may be a blank. -/
def word (cs : List Char) : List Char × List Char :=
  let isWordChar (c : Char) : Bool := c.isAlphanum || ['_', '+', '-', '.', ':'].contains c
  let first := cs.takeWhile isWordChar
  let rest := cs.dropWhile isWordChar
  match rest with
  | ' ' :: more =>
    if first.length = 10 ∧ isDateOrTime first ∧ isDateOrTime more then
      (first ++ ' ' :: more.takeWhile isWordChar, more.dropWhile isWordChar)
    else (first, rest)
  | _ => (first, rest)

/-- Members with a value at the end of a key; a table on the way may be there already, the last part
    may not. Of a list of tables the last one is meant. -/
def put (value : Setting) (ms : List (String × Setting)) :
    List String → Option (List (String × Setting))
  | [] => none
  | [k] => if (Setting.member? k ms).isSome then none else some (Setting.insert k value ms)
  | k :: ks =>
    match Setting.member? k ms with
    | none => (put value [] ks).map fun sub => Setting.insert k (.table true sub) ms
    | some (.table b sub) => (put value sub ks).map fun sub => Setting.insert k (.table b sub) ms
    | some (.list b xs) =>
      match xs.getLast? with
      | some (.table c sub) =>
        (put value sub ks).map fun sub =>
          Setting.insert k (.list b (xs.dropLast ++ [.table c sub])) ms
      | _ => none
    | some _ => none

mutual

/-- A value. -/
def value : Nat → List Char → Step Setting
  | 0, _ => none
  | n + 1, cs =>
    match cs with
    | '[' :: rest =>
      (items n [] (skipLines (rest.length + 1) rest)).map fun (xs, rest) => (.list true xs, rest)
    | '\x7b' :: rest =>
      match skipGaps rest with
      | '\x7d' :: rest => some (.table true [], rest)
      | rest => (members n [] rest).map fun (ms, rest) => (.table true ms, rest)
    | '"' :: _ => (string cs).map fun (s, rest) => (.text s, rest)
    | '\'' :: _ => (string cs).map fun (s, rest) => (.text s, rest)
    | _ =>
      match scalar (word cs).1 with
      | some v => some (v, (word cs).2)
      | none => none

/-- The items of a list up to its closing bracket. -/
def items : Nat → List Setting → List Char → Step (List Setting)
  | 0, _, _ => none
  | n + 1, done, cs =>
    match cs with
    | ']' :: rest => some (done, rest)
    | _ =>
      match value n cs with
      | none => none
      | some (x, rest) =>
        match skipLines (rest.length + 1) rest with
        | ',' :: rest => items n (done ++ [x]) (skipLines (rest.length + 1) rest)
        | ']' :: rest => some (done ++ [x], rest)
        | _ => none

/-- The members of a table up to its closing brace, on one line. -/
def members : Nat → List (String × Setting) → List Char → Step (List (String × Setting))
  | 0, _, _ => none
  | n + 1, done, cs =>
    match key (cs.length + 1) cs with
    | some (k, '=' :: rest) =>
      match value n (skipGaps rest) with
      | none => none
      | some (v, rest) =>
        match put v done k, skipGaps rest with
        | some ms, ',' :: rest => members n ms (skipGaps rest)
        | some ms, '\x7d' :: rest => some (ms, rest)
        | _, _ => none
    | _ => none

end

/-! ### Pages -/

/-- What was read so far: the members of the text, the heading they stand under, all headings, the
    keys that were given with their headings, and the tables that these lead through. -/
structure Page where
  root : List (String × Setting) := []
  heading : List String := []
  headings : List (List String) := []
  given : List (List String) := []
  ways : List (List String) := []

/-- The tables that a key leads through. -/
def waysOf (key : List String) : List (List String) :=
  ((List.range key.length).drop 1).map key.take

/-- Whether a heading leads to no table and through none that was made by keys. -/
def Page.isFree (p : Page) (heading : List String) : Bool :=
  (heading :: waysOf heading).all fun h => !(p.given.contains h || p.ways.contains h)

/-- Whether there is something at the end of a key; of a list of tables the last one is meant. -/
def isThere (ms : List (String × Setting)) : List String → Bool
  | [] => true
  | k :: ks =>
    match Setting.member? k ms with
    | some (.table _ sub) => isThere sub ks
    | some (.list _ xs) =>
      match xs.getLast? with
      | some (.table _ sub) => isThere sub ks
      | _ => ks.isEmpty
    | some _ => ks.isEmpty
    | none => false

/-- Members with a table at the end of a heading. -/
def withTable (ms : List (String × Setting)) :
    List String → Option (List (String × Setting))
  | [] => some ms
  | k :: ks =>
    match Setting.member? k ms with
    | none => (withTable [] ks).map fun sub => Setting.insert k (.table true sub) ms
    | some (.table b sub) => (withTable sub ks).map fun sub => Setting.insert k (.table b sub) ms
    | some (.list b xs) =>
      match xs.getLast? with
      | some (.table c sub) =>
        (withTable sub ks).map fun sub =>
          Setting.insert k (.list b (xs.dropLast ++ [.table c sub])) ms
      | _ => none
    | some _ => none

/-- Members with one more item in the list of tables at the end of a heading. -/
def withItem (ms : List (String × Setting)) :
    List String → Option (List (String × Setting))
  | [] => none
  | [k] =>
    match Setting.member? k ms with
    | none => some (Setting.insert k (.list true [.table true []]) ms)
    | some (.list b xs) => some (Setting.insert k (.list b (xs ++ [.table true []])) ms)
    | some _ => none
  | k :: ks =>
    match Setting.member? k ms with
    | none => (withItem [] ks).map fun sub => Setting.insert k (.table true sub) ms
    | some (.table b sub) => (withItem sub ks).map fun sub => Setting.insert k (.table b sub) ms
    | some (.list b xs) =>
      match xs.getLast? with
      | some (.table c sub) =>
        (withItem sub ks).map fun sub =>
          Setting.insert k (.list b (xs.dropLast ++ [.table c sub])) ms
      | _ => none
    | some _ => none

/-- A page after a heading in single brackets. -/
def Page.enter (p : Page) (heading : List String) : Option Page :=
  if p.headings.contains heading ∨ !p.isFree heading then none
  else
    (withTable p.root heading).map fun root =>
      { p with root, heading, headings := heading :: p.headings }

/-- A page after a heading in double brackets, below which all headings and keys are new. -/
def Page.enterItem (p : Page) (heading : List String) : Option Page :=
  let outside (paths : List (List String)) := paths.filter fun h => !heading.isPrefixOf h
  if p.isFree heading then
    (withItem p.root heading).map fun root =>
      { root, heading, headings := outside p.headings, given := outside p.given,
        ways := outside p.ways }
  else none

/-- A page after a line with a key and a value. -/
def Page.put (p : Page) (k : List String) (v : Setting) : Option Page :=
  let ways := (waysOf k).map (p.heading ++ ·)
  if ways.all fun w => p.ways.contains w || !isThere p.root w then
    (Toml.put v p.root (p.heading ++ k)).map fun root =>
      { p with root, given := (p.heading ++ k) :: p.given, ways := ways ++ p.ways }
  else none

/-- A page after the next line that counts, and the text after it. -/
def Page.line (p : Page) (cs : List Char) : Step Page :=
  match cs with
  | '[' :: '[' :: rest =>
    match key (rest.length + 1) (skipGaps rest) with
    | some (h, ']' :: ']' :: rest) =>
      match p.enterItem h, finishLine rest with
      | some p, some rest => some (p, rest)
      | _, _ => none
    | _ => none
  | '[' :: rest =>
    match key (rest.length + 1) (skipGaps rest) with
    | some (h, ']' :: rest) =>
      match p.enter h, finishLine rest with
      | some p, some rest => some (p, rest)
      | _, _ => none
    | _ => none
  | _ =>
    match key (cs.length + 1) cs with
    | some (k, '=' :: rest) =>
      match value (2 * rest.length + 2) (skipGaps rest) with
      | some (v, rest) =>
        match p.put k v, finishLine rest with
        | some p, some rest => some (p, rest)
        | _, _ => none
      | none => none
    | _ => none

/-- A page after all lines of a text. -/
def Page.lines : Nat → Page → List Char → Option Page
  | 0, _, _ => none
  | n + 1, p, cs =>
    match skipLines (cs.length + 1) cs with
    | [] => some p
    | rest =>
      match p.line rest with
      | some (p, rest) => lines n p rest
      | none => none

/-- A text without the carriage returns in front of line feeds. -/
def withLineFeeds : List Char → List Char
  | [] => []
  | '\r' :: '\n' :: cs => '\n' :: withLineFeeds cs
  | c :: cs => c :: withLineFeeds cs

/-- The settings of a text. -/
def read? (text : String) : Option (List (String × Setting)) :=
  let cs := withLineFeeds <| match text.toList with
    | '\ufeff' :: cs => cs
    | cs => cs
  (Page.lines (cs.length + 2) {} cs).map (·.root)

end Toml

end RunReport
