import RunReport.Manifest.Setting
import RunReport.Number.RealText

/-!
# Scalars in YAML

Values without parts in a YAML text: plain, in single or in double quotation marks, or as a block.

A plain scalar ends where a comment or a value begins, and inside of brackets also at their signs.
It goes on in the next lines as long as these are indented more than the mapping around it. Line
ends in plain and quoted scalars are folded: one becomes a blank, and each further one stays. Only
a plain scalar can be anything but a text.

## Main definitions

* `Yaml.Cursor`: The rest of a text, and its column.
* `Yaml.plain`, `Yaml.quoted`, `Yaml.block`: The scalars at a cursor.
* `Yaml.ofPlain`: The value of a plain scalar.
-/

namespace RunReport

namespace Yaml

/-- The rest of a text, and the column it starts in. -/
structure Cursor where
  column : Nat
  rest : List Char

/-- What is read, and where reading goes on. -/
abbrev Step (α : Type) := Option (α × Cursor)

/-- Whether a character separates words on a line. -/
def isGap (c : Char) : Bool :=
  c = ' ' || c = '\t'

/-- Whether a word ends in front of a text. -/
def endsWord : List Char → Bool
  | [] => true
  | c :: _ => isGap c || c = '\n'

/-- Whether a character is a sign of bracketed values. -/
def isFlowSign (c : Char) : Bool :=
  [',', '[', ']', '\x7b', '\x7d'].contains c

namespace Cursor

/-- Some characters further on the same line. -/
def drop (c : Cursor) (n : Nat) : Cursor :=
  ⟨c.column + n, c.rest.drop n⟩

/-- Behind the blanks and tabs. -/
def skipGaps (c : Cursor) : Cursor :=
  c.drop (c.rest.takeWhile isGap).length

/-- At the end of the line. -/
def lineEnd (c : Cursor) : Cursor :=
  c.drop (c.rest.takeWhile (· ≠ '\n')).length

/-- At the end of the line, if there is only a comment in front of it. No blank need stand before
    the comment: a plain scalar does not end without one, and other values end by themselves. -/
def finishLine (c : Cursor) : Option Cursor :=
  let g := c.skipGaps
  match g.rest with
  | [] => some g
  | '\n' :: _ => some g
  | '#' :: _ => some g.lineEnd
  | _ => none

/-- Whether the cursor stands at a line that separates documents. -/
def isMarker (c : Cursor) : Bool :=
  c.column == 0 && ["---".toList, "...".toList].any fun m =>
    m.isPrefixOf c.rest && endsWord (c.rest.drop 3)

/-- Whether a document ends here. -/
def isEnd (c : Cursor) : Bool :=
  c.rest.isEmpty || c.isMarker

/-- At the next character that is no blank, line end or part of a comment. A tab in front of other
    characters is left. -/
def skipLines : Nat → Cursor → Cursor
  | 0, c => c
  | n + 1, c =>
    let s := c.drop (c.rest.takeWhile (· = ' ')).length
    match s.rest with
    | '\n' :: rest => skipLines n ⟨0, rest⟩
    | '#' :: _ => skipLines n s.lineEnd
    | '\t' :: _ =>
      match s.skipGaps.rest with
      | '\n' :: rest => skipLines n ⟨0, rest⟩
      | [] => s.skipGaps
      | _ => s
    | _ => s

/-- At the next character that counts. -/
def next (c : Cursor) : Cursor :=
  skipLines (c.rest.length + 1) c

end Cursor

/-! ### Folded lines -/

/-- What stands for some line ends: a blank for one, and one line end less for more. -/
def folded (lineEnds : Nat) : List Char :=
  if lineEnds ≤ 1 then [' '] else List.replicate (lineEnds - 1) '\n'

/-- The line ends at a cursor, and the start of the text behind them. -/
def lineEnds : Nat → Cursor → Nat × Cursor
  | 0, c => (0, c)
  | n + 1, c =>
    match c.skipGaps.rest with
    | '\n' :: rest =>
      let (k, after) := lineEnds n ⟨0, rest⟩
      (k + 1, after)
    | _ => (0, c)

/-! ### Plain scalars -/

/-- The part of a plain scalar on one line; `afterGap` says whether a blank is in front. -/
def plainLine (inFlow : Bool) : Bool → List Char → List Char
  | _, [] => []
  | afterGap, c :: cs =>
    if c = '\n' ∨ c = '#' ∧ afterGap then []
    else if c = ':' ∧ (endsWord cs ∨ inFlow ∧ (cs.head?.map isFlowSign).getD false) then []
    else if inFlow ∧ isFlowSign c then []
    else c :: plainLine inFlow (isGap c) cs

/-- The part of a plain scalar on one line, without the blanks at its end. -/
def plainPart (inFlow : Bool) (c : Cursor) : List Char :=
  ((plainLine inFlow false c.rest).reverse.dropWhile isGap).reverse

/-- Whether a tab stands in front of the column that a line has to reach. -/
def hasEarlyTab (column : Nat) (c : Cursor) : Bool :=
  let blanks := (c.rest.takeWhile (· = ' ')).length
  blanks < column && (c.rest.drop blanks).head? == some '\t'

/-- The further lines of a plain scalar that have to start in a column. -/
def plainLines (inFlow : Bool) (column : Nat) : Nat → Cursor → Step (List Char)
  | 0, _ => none
  | n + 1, c =>
    let (k, start) := lineEnds (c.rest.length + 1) c
    let s := start.skipGaps
    if k = 0 ∨ start.isEnd ∨ s.rest.isEmpty ∨ s.rest.head? = some '#' then some ([], c)
    else if inFlow = false ∧ hasEarlyTab column start then none
    else if inFlow = false ∧ s.column < column then some ([], c)
    else
      let part := plainPart inFlow s
      if part.isEmpty then some ([], c)
      else
        match plainLines inFlow column n (s.drop part.length) with
        | some (more, after) => some (folded k ++ part ++ more, after)
        | none => none

/-- Whether a plain scalar can start with a character. -/
def startsPlain (inFlow : Bool) : List Char → Bool
  | [] => false
  | c :: cs =>
    if c = '-' then !endsWord cs
    else if c = ':' ∨ c = '?' then !inFlow && !endsWord cs
    else if c = '|' ∨ c = '>' then inFlow
    else !(isFlowSign c || ['#', '&', '*', '!', '%', '@', '\x60', '"', '\'', '\n', '\t'].contains c)

/-- A plain scalar whose further lines have to start in a column. -/
def plain (inFlow : Bool) (column : Nat) (c : Cursor) : Step String :=
  if startsPlain inFlow c.rest then
    let part := plainPart inFlow c
    match plainLines inFlow column (c.rest.length + 1) (c.drop part.length) with
    | some (more, after) => some (String.ofList (part ++ more), after)
    | none => none
  else none

/-- The number that digits of a base write, with a sign if there is one. -/
def ofDigits? (base : Nat) (cs : List Char) : Option Int :=
  let (negative, ds) := Binary64.sign cs
  match Numeral.valueIn? base ds with
  | none => none
  | some n =>
    let i : Int := if negative then -(n : Int) else n
    if -(Word.signedLimit : Int) ≤ i ∧ i < Word.signedLimit then some i else none

/-- The integer that a plain scalar writes; a sign may stand behind a plus sign. -/
def integer? (s : String) : Option Int :=
  let other := match s.toList with
    | '0' :: 'x' :: ds => ofDigits? 16 ds
    | '0' :: 'o' :: ds => ofDigits? 8 ds
    | '+' :: ds => Numeral.integer? 64 ds
    | _ => none
  other.or (Numeral.integer? 64 s.toList)

/-- The value of a plain scalar. -/
def ofPlain (s : String) : Setting :=
  match integer? s with
  | some i => .int i
  | none =>
    if s = "~" ∨ s = "null" then .nothing true
    else if s = "true" then .flag true
    else if s = "false" then .flag false
    else
      match Binary64.read? s.toList with
      | some x => .real x
      | none => .text s

/-! ### Quoted scalars -/

/-- The character behind a backslash, where it stands for one. -/
def escaped? : Char → Option Char
  | '0' => some '\x00'
  | 'a' => some '\x07'
  | 'b' => some '\x08'
  | 't' => some '\t'
  | '\t' => some '\t'
  | 'n' => some '\n'
  | 'v' => some '\x0B'
  | 'f' => some '\x0C'
  | 'r' => some '\r'
  | 'e' => some '\x1B'
  | ' ' => some ' '
  | '"' => some '"'
  | '/' => some '/'
  | '\\' => some '\\'
  | 'N' => some '\u0085'
  | '_' => some '\u00A0'
  | 'L' => some '\u2028'
  | 'P' => some '\u2029'
  | _ => none

/-- How many hexadecimal digits follow a letter behind a backslash. -/
def hexLength? : Char → Option Nat
  | 'x' => some 2
  | 'u' => some 4
  | 'U' => some 8
  | _ => none

/-- The character of a number in hexadecimal digits. -/
def ofHex? (ds : List Char) : Option Char :=
  match Numeral.valueIn? 16 ds with
  | some n => if n.isValidChar then some (Char.ofNat n) else none
  | none => none

/-- A text without the blanks and tabs at its end. -/
def withoutGaps (done : List Char) : List Char :=
  done.dropWhile isGap

/-- What stands between quotation marks, after the first one; `done` is read already, in reverse. -/
def quotedRest (mark : Char) : Nat → List Char → Cursor → Step (List Char)
  | 0, _, _ => none
  | n + 1, done, c =>
    match c.rest with
    | [] => none
    | '\n' :: _ =>
      let (k, start) := lineEnds (c.rest.length + 1) c
      if start.isEnd then none
      else quotedRest mark n ((folded k).reverse ++ withoutGaps done) start.skipGaps
    | x :: rest =>
      if x = mark then
        if mark = '\'' ∧ rest.head? = some mark then quotedRest mark n (mark :: done) (c.drop 2)
        else some (done.reverse, c.drop 1)
      else if x = '\\' ∧ mark = '"' then
        match rest with
        | '\n' :: after =>
          let (k, start) := lineEnds (after.length + 1) ⟨0, after⟩
          quotedRest mark n (List.replicate k '\n' ++ done) start.skipGaps
        | e :: after =>
          match escaped? e, hexLength? e with
          | some y, _ => quotedRest mark n (y :: done) (c.drop 2)
          | none, some k =>
            if after.length < k then none
            else
              match ofHex? (after.take k) with
              | some y => quotedRest mark n (y :: done) (c.drop (2 + k))
              | none => none
          | none, none => none
        | [] => none
      else quotedRest mark n (x :: done) (c.drop 1)

/-- A scalar in quotation marks. -/
def quoted (c : Cursor) : Step String :=
  match c.rest with
  | x :: _ =>
    if x = '"' ∨ x = '\'' then
      match quotedRest x (c.rest.length + 1) [] (c.drop 1) with
      | some (cs, after) => some (String.ofList cs, after)
      | none => none
    else none
  | [] => none

/-! ### Blocks -/

/-- How the line ends behind a block are treated. -/
inductive Chomping
  | clip
  | strip
  | keep
  deriving DecidableEq

/-- The signs behind the sign of a block: its indentation, if it is given, and the chomping. -/
def blockSigns : Option Nat → Chomping → List Char → Option Nat × Chomping × Nat
  | given, chomping, c :: cs =>
    if c = '-' then
      let (g, h, k) := blockSigns given .strip cs
      (g, h, k + 1)
    else if c = '+' then
      let (g, h, k) := blockSigns given .keep cs
      (g, h, k + 1)
    else if '1' ≤ c ∧ c ≤ '9' then
      let (g, h, k) := blockSigns (some (Numeral.valueOfDigit c)) chomping cs
      (g, h, k + 1)
    else (given, chomping, 0)
  | given, chomping, [] => (given, chomping, 0)

/-- The lines of a block that starts in a column, and the text after it. An empty line stands for a
    line with blanks only. -/
def blockLines (column : Nat) : Nat → List Char → List (List Char) × List Char
  | 0, cs => ([], cs)
  | n + 1, cs =>
    let blanks := (cs.takeWhile (· = ' ')).length
    let line := cs.takeWhile (· ≠ '\n')
    let rest := (cs.drop line.length).drop 1
    if cs.isEmpty then ([], [])
    else if line.all (· = ' ') ∧ blanks ≤ column then
      let (ls, after) := blockLines column n rest
      ([] :: ls, after)
    else if blanks < column then ([], cs)
    else
      let (ls, after) := blockLines column n rest
      (line.drop column :: ls, after)

/-- The column of the first line of a text that is not empty. -/
def firstColumn : Nat → List Char → Nat
  | 0, _ => 0
  | n + 1, cs =>
    let blanks := (cs.takeWhile (· = ' ')).length
    match cs.drop blanks with
    | '\n' :: rest => firstColumn n rest
    | _ => blanks

/-- Lines joined by blanks; empty lines and lines that start with a blank keep their line ends. -/
def foldedLines : List (List Char) → List Char
  | [] => []
  | [l] => l
  | l :: m :: ls =>
    let more := foldedLines (m :: ls)
    if l.isEmpty then '\n' :: more
    else if (l.head?.map isGap).getD false ∨ (m.head?.map isGap).getD false then l ++ '\n' :: more
    else if m.isEmpty then l ++ more
    else l ++ ' ' :: more

/-- The text of a block. -/
def blockText (isFolded : Bool) (chomping : Chomping) (lines : List (List Char)) : String :=
  let kept := (lines.reverse.dropWhile List.isEmpty).reverse
  let body := if isFolded then foldedLines kept else List.intercalate ['\n'] kept
  let tail := match chomping with
    | .strip => []
    | .clip => if kept.isEmpty then [] else ['\n']
    | .keep => List.replicate (lines.length - kept.length + (if kept.isEmpty then 0 else 1)) '\n'
  String.ofList (body ++ tail)

/-- A block whose lines have to start behind the column of the mapping around it. -/
def block (column : Nat) (c : Cursor) : Step String :=
  match c.rest with
  | sign :: cs =>
    if sign = '|' ∨ sign = '>' then
      let (given, chomping, k) := blockSigns none .clip cs
      match (c.drop (k + 1)).finishLine with
      | none => none
      | some e =>
        let body := e.rest.drop 1
        let first := firstColumn (body.length + 1) body
        let start := (given.map (column + · - 1)).getD (max column first)
        let (lines, rest) := blockLines start (body.length + 1) body
        some (blockText (sign = '>') chomping lines, ⟨0, rest⟩)
    else none
  | [] => none

end Yaml

end RunReport
