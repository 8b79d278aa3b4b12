import RunReport.Template.Basic
import RunReport.Text.Blank

/-!
# Reading Templates

The written form of templates.

Values stand between doubled braces, choices and loops between a brace and a percent sign. A text
is first cut into pieces at these signs, and then the pieces are put together: a choice goes on to
the piece that ends it, with any number of further conditions in between. Whatever is not known, a
piece or a filter, makes the whole text no template.

## Main definitions

* `Template.Piece`: A piece of a text.
* `Template.parse?`: The template that a text writes.
-/

namespace RunReport

namespace Template

/-- A piece of a text: text as it stands, or what stands between two signs. -/
inductive Piece
  | text (s : List Char)
  | output (content : List Char)
  | tag (content : List Char)

/-- What stands before two characters in a row, and what stands after them. -/
def splitAtPair (a b : Char) : List Char → Option (List Char × List Char)
  | [] => none
  | [_] => none
  | x :: y :: rest =>
    if x = a ∧ y = b then some ([], rest)
    else (splitAtPair a b (y :: rest)).map fun (front, back) => (x :: front, back)

/-- The pieces of a text; `front` is text that was read, in reverse. -/
def pieces : Nat → List Char → List Char → Option (List Piece)
  | 0, _, _ => none
  | n + 1, front, cs =>
    let done := if front.isEmpty then [] else [Piece.text front.reverse]
    match cs with
    | '\x7b' :: '\x7b' :: rest =>
      match splitAtPair '\x7d' '\x7d' rest with
      | none => none
      | some (content, rest) => (pieces n [] rest).map fun ps => done ++ .output content :: ps
    | '\x7b' :: '%' :: rest =>
      match splitAtPair '%' '\x7d' rest with
      | none => none
      | some (content, rest) => (pieces n [] rest).map fun ps => done ++ .tag content :: ps
    | c :: rest => pieces n (c :: front) rest
    | [] => some done

/-- A word or sign of a piece. -/
inductive Token
  | word (s : String)
  | quoted (s : String)
  | int (i : Int)
  | sign (c : Char)
  deriving DecidableEq

/-- Whether a character may stand in a name after its first letter. -/
def isNameChar (c : Char) : Bool :=
  c.isAlphanum || c = '_' || c = '-'

/-- The words and signs of a piece. -/
def tokens : Nat → List Char → Option (List Token)
  | 0, _ => none
  | n + 1, cs =>
    match Text.trimStart cs with
    | [] => some []
    | c :: rest =>
      if c.isAlpha || c = '_' then
        let name := c :: rest.takeWhile isNameChar
        (tokens n (rest.dropWhile isNameChar)).map (.word (String.ofList name) :: ·)
      else if c = '"' || c = '\'' then
        let inner := rest.takeWhile (· ≠ c)
        match rest.drop inner.length with
        | _ :: rest => (tokens n rest).map (.quoted (String.ofList inner) :: ·)
        | [] => none
      else if c.isDigit || (c = '-' && (rest.head?.map Char.isDigit).getD false) then
        let digits := c :: rest.takeWhile Char.isDigit
        match Numeral.integer? 64 digits with
        | some i => (tokens n (rest.dropWhile Char.isDigit)).map (.int i :: ·)
        | none => none
      else (tokens n rest).map (.sign c :: ·)

/-- The names after a name, each after a point. -/
def members : List Token → List String × List Token
  | .sign '.' :: .word w :: rest =>
    let (ws, rest) := members rest
    (w :: ws, rest)
  | ts => ([], ts)

/-- A value at the start of some tokens. -/
def operand : List Token → Option (Operand × List Token)
  | .word "true" :: rest => some (.literal (.bool true), rest)
  | .word "false" :: rest => some (.literal (.bool false), rest)
  | .word "nil" :: rest => some (.literal .nil, rest)
  | .word "empty" :: rest => some (.literal .nil, rest)
  | .word "blank" :: rest => some (.literal .nil, rest)
  | .word w :: rest =>
    let (ws, rest) := members rest
    some (.path w ws, rest)
  | .quoted s :: rest => some (.literal (.text s), rest)
  | .int i :: rest => some (.literal (.int i), rest)
  | _ => none

/-- Filters, each after a bar. -/
def filters : List Token → Option (List Filter)
  | [] => some []
  | .sign '|' :: .word "escape" :: rest => (filters rest).map (.escape :: ·)
  | .sign '|' :: .word "join" :: .sign ':' :: .quoted s :: rest =>
    (filters rest).map (.join s :: ·)
  | .sign '|' :: .word "join" :: rest => (filters rest).map (.join " " :: ·)
  | _ => none

/-- A condition that takes up all tokens. -/
def condition (ts : List Token) : Option Condition :=
  match operand ts with
  | some (a, []) => some (.isTrue a)
  | some (a, .sign '>' :: rest) =>
    match operand rest with
    | some (b, []) => some (.isGreater a b)
    | _ => none
  | _ => none

/-- The tokens of a piece. -/
def tokensOf (content : List Char) : Option (List Token) :=
  tokens (content.length + 1) content

/-- Why a list of nodes ends: the text does, or a piece that belongs to what is around it. -/
inductive Ending
  | text
  | tag (ts : List Token)

mutual

/-- The nodes up to the end of the text or to a piece that ends the list, in front of which they
    stand. -/
def readNodes : Nat → List Piece → Option (List Node × Ending × List Piece)
  | 0, _ => none
  | _ + 1, [] => some ([], .text, [])
  | n + 1, .text s :: rest =>
    match readNodes n rest with
    | some (ns, ending, rest) => some (.text (String.ofList s) :: ns, ending, rest)
    | none => none
  | n + 1, .output content :: rest =>
    match (tokensOf content).bind operand with
    | none => none
    | some (o, ts) =>
      match filters ts, readNodes n rest with
      | some fs, some (ns, ending, rest) => some (.output o fs :: ns, ending, rest)
      | _, _ => none
  | n + 1, .tag content :: rest =>
    match tokensOf content with
    | some (.word "if" :: ts) =>
      match readChoice n ts rest with
      | none => none
      | some (node, rest) =>
        match readNodes n rest with
        | some (ns, ending, rest) => some (node :: ns, ending, rest)
        | none => none
    | some [.word "for", .word name, .word "in", .word w] =>
      readLoop n name (.path w []) rest
    | some (.word "for" :: .word name :: .word "in" :: ts) =>
      match operand ts with
      | some (o, []) => readLoop n name o rest
      | _ => none
    | some ts =>
      match ts.head? with
      | some (.word w) =>
        if ["elsif", "else", "endif", "endfor"].contains w then some ([], .tag ts, rest) else none
      | _ => none
    | none => none

/-- A choice after its condition, up to the piece that ends it. -/
def readChoice : Nat → List Token → List Piece → Option (Node × List Piece)
  | 0, _, _ => none
  | n + 1, ts, rest =>
    match condition ts, readNodes n rest with
    | some c, some (yes, .tag [.word "endif"], rest) => some (.choice c yes [], rest)
    | some c, some (yes, .tag [.word "else"], rest) =>
      match readNodes n rest with
      | some (no, .tag [.word "endif"], rest) => some (.choice c yes no, rest)
      | _ => none
    | some c, some (yes, .tag (.word "elsif" :: ts), rest) =>
      match readChoice n ts rest with
      | some (no, rest) => some (.choice c yes [no], rest)
      | none => none
    | _, _ => none

/-- A loop after its first piece, and the nodes that follow it. -/
def readLoop : Nat → String → Operand → List Piece → Option (List Node × Ending × List Piece)
  | 0, _, _, _ => none
  | n + 1, name, range, rest =>
    match readNodes n rest with
    | some (body, .tag [.word "endfor"], rest) =>
      match readNodes n rest with
      | some (ns, ending, rest) => some (.each name range body :: ns, ending, rest)
      | none => none
    | _ => none

end

/-- The template that a text writes. -/
def parse? (s : String) : Option Template :=
  let cs := s.toList
  match pieces (cs.length + 1) [] cs with
  | none => none
  | some ps =>
    match readNodes (3 * ps.length + 1) ps with
    | some (ns, .text, _) => some ⟨ns⟩
    | _ => none

end Template

end RunReport
