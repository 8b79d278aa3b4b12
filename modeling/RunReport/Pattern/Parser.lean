import RunReport.Pattern.Library
import RunReport.Pattern.Named
import RunReport.Text.Blank
import RunReport.Text.Numeral

/-!
# Reading Patterns

The written form of patterns.

Apart from letters that stand for themselves a pattern has groups, alternatives, repetitions, sets
in brackets, assertions, and flags such as `(?i)` that hold to the end of their group. There is no
looking around and no reference to a group that was matched before. Sets in brackets may be nested
and combined by `&&`, `--` and `~~`, which all bind equally and less than writing members side by
side. With the flag `x`, blanks and comments between the parts are left out.

A pattern is refused if it does not have this form, if its parts are nested more than 250 deep, or
if the library does not take its program.

## Main definitions

* `Pattern.Flags`: The flags that are in force at a place.
* `Pattern.Term`: A part of a pattern and how deeply it is nested.
* `Pattern.written?`: The pattern that a text writes.
* `Pattern.parse?`: The same, if the library takes it.
-/

namespace RunReport

namespace Pattern

/-- The flags that are in force at a place. -/
structure Flags where
  ignoreCase : Bool := false
  multiLine : Bool := false
  dotAll : Bool := false
  carriage : Bool := false
  unicode : Bool := true
  extended : Bool := false

/-- A part of a pattern, and how deeply it is nested. -/
structure Term where
  pattern : Pattern
  depth : Nat := 0

/-- A member of a sequence: a part, or flags that are switched and cannot be repeated. -/
inductive Item
  | term (t : Term)
  | directive

/-- How deeply the parts of a pattern may be nested. -/
def depthLimit : Nat := 250

/-- What is read, and the text after it. -/
abbrev Read (α : Type) := Option (α × List Char)

/-! ### Blanks and comments -/

/-- A text after the blanks and comments that it starts with. -/
def afterBlanks (inComment : Bool) : List Char → List Char
  | [] => []
  | c :: cs =>
    if inComment then afterBlanks (c ≠ '\n') cs
    else if Text.isBlank c then afterBlanks false cs
    else if c = '#' then afterBlanks true cs
    else c :: cs

/-- A text after blanks and comments, where these are left out. -/
def skip (f : Flags) (cs : List Char) : List Char :=
  if f.extended then afterBlanks false cs else cs

/-! ### Numbers -/

/-- The character with a number. -/
def charOf? (n : Nat) : Option Char :=
  if n.isValidChar then some (Char.ofNat n) else none

/-- The character of exactly so many hexadecimal digits. -/
def fixedHex (f : Flags) : Nat → Nat → List Char → Read Char
  | 0, value, cs => (charOf? value).map fun c => (c, cs)
  | _ + 1, _, [] => none
  | n + 1, value, c :: cs =>
    match Numeral.digitIn? 16 c with
    | some d => fixedHex f n (16 * value + d) (skip f cs)
    | none => none

/-- A text up to a closing brace, without blanks where these are left out, and what follows. -/
def braced (f : Flags) : Nat → List Char → Read (List Char)
  | 0, _ => none
  | n + 1, cs =>
    match skip f cs with
    | [] => none
    | '\x7d' :: rest => some ([], rest)
    | c :: rest => (braced f n rest).map fun (name, rest) => (c :: name, rest)

/-- The character of hexadecimal digits in braces. -/
def bracedHex (f : Flags) (cs : List Char) : Option (Char × List Char) := do
  let (digits, rest) ← braced f (cs.length + 1) cs
  let value ← Numeral.valueIn? 16 digits
  let c ← charOf? value
  some (c, skip f rest)

/-- Digits, between which blanks may be left out. -/
def countDigits (f : Flags) : Nat → List Char → List Char × List Char
  | 0, cs => ([], cs)
  | n + 1, cs =>
    match cs with
    | c :: rest =>
      if c.isDigit then
        let (ds, rest) := countDigits f n (skip f rest)
        (c :: ds, rest)
      else ([], cs)
    | [] => ([], [])

/-- A count of a repetition, between blanks. -/
def count (f : Flags) (cs : List Char) : Option (Nat × List Char) := do
  let cs := Text.trimStart cs
  let (digits, rest) := countDigits f (cs.length + 1) cs
  let n ← (Numeral.valueOf? digits).filter (· < Nat.pow 2 32)
  some (n, skip f (Text.trimStart rest))

/-! ### Escapes -/

/-- What an escape stands for. A byte is a character written by two hexadecimal digits. -/
inductive Escaped
  | literal (c : Char) (isByte : Bool)
  | set (s : CharSet)
  | assertion (a : Assertion)

/-- Whether an escaped character stands for itself. -/
def escapesItself (c : Char) : Bool :=
  c.toNat < 128 && !c.isAlphanum && c != '<' && c != '>'

/-- A control character that a letter stands for. -/
def control? : Char → Option Char
  | 'a' => some '\x07'
  | 'f' => some '\x0c'
  | 't' => some '\t'
  | 'n' => some '\n'
  | 'r' => some '\r'
  | 'v' => some '\x0b'
  | _ => none

/-- A set, or its complement. Without Unicode there is no complement: it would match parts of
    characters. -/
def negatable (f : Flags) (negated : Bool) (s : CharSet) : Option CharSet :=
  if !negated then some s else if f.unicode then some (.complement s) else none

/-- A set with the letters that differ only in case, where case is ignored. -/
def caseless (f : Flags) (s : CharSet) : CharSet :=
  if !f.ignoreCase then s
  else if f.unicode then .folded s
  else .inter (.folded s) .ascii

/-- What stands before and after the first occurrence of a text. -/
def splitAt? (sep : List Char) : List Char → Option (List Char × List Char)
  | [] => none
  | c :: cs =>
    if sep.isPrefixOf (c :: cs) then some ([], (c :: cs).drop sep.length)
    else (splitAt? sep cs).map fun (front, back) => (c :: front, back)

/-- The set that a text in the braces of `\p` names, and whether it is negated there. -/
def propertySet? [UnicodeNames] (name : List Char) : Option (CharSet × Bool) :=
  match splitAt? ['!', '='] name with
  | some (property, value) => (UnicodeNames.valued? property value).map (·, true)
  | none =>
    match (splitAt? [':'] name).or (splitAt? ['='] name) with
    | some (property, value) => (UnicodeNames.valued? property value).map (·, false)
    | none => (UnicodeNames.named? name).map (·, false)

/-- A set of Unicode after the letter `p`. -/
def propertyEscape [UnicodeNames] (f : Flags) (negated : Bool) (cs : List Char) :
    Option (CharSet × List Char) := do
  let finish (s : CharSet) (flip : Bool) (rest : List Char) : Read CharSet :=
    if f.unicode then
      (negatable f (negated != flip) (caseless f s)).map fun s => (s, rest)
    else none
  match skip f cs with
  | [] => none
  | '\x7b' :: rest =>
    let (name, rest) ← braced f (rest.length + 1) rest
    let (s, flip) ← propertySet? name
    finish s flip rest
  | '\\' :: _ => none
  | c :: rest =>
    let s ← UnicodeNames.named? [c]
    finish s false (skip f rest)

/-- A hexadecimal number after its letter. -/
def hexEscape (f : Flags) (digits : Nat) (cs : List Char) : Read Escaped :=
  match skip f cs with
  | [] => none
  | '\x7b' :: rest => (bracedHex f rest).map fun (c, rest) => (.literal c false, rest)
  | cs => (fixedHex f digits 0 cs).map fun (c, rest) => (.literal c (digits == 2), rest)

/-- The assertions that can be named in braces after `\b`. -/
def namedBoundary? (ascii : Bool) (name : String) : Option Assertion :=
  if name = "start" then some (.wordStart ascii)
  else if name = "end" then some (.wordEnd ascii)
  else if name = "start-half" then some (.noWordBefore ascii)
  else if name = "end-half" then some (.noWordAfter ascii)
  else none

/-- Letters and hyphens, without blanks where these are left out. -/
def boundaryName (f : Flags) : Nat → List Char → List Char × List Char
  | 0, cs => ([], cs)
  | n + 1, cs =>
    match cs with
    | c :: rest =>
      if c.isAlpha || c = '-' then
        let (name, rest) := boundaryName f n (skip f rest)
        (c :: name, rest)
      else ([], cs)
    | [] => ([], [])

/-- The end of a word boundary: a name in braces, if letters follow the brace. -/
def boundaryEscape (f : Flags) (cs : List Char) : Read Escaped :=
  let ascii := !f.unicode
  match cs with
  | '\x7b' :: rest =>
    match skip f rest with
    | [] => none
    | c :: more =>
      if c.isAlpha || c = '-' then
        match boundaryName f (more.length + 2) (c :: more) with
        | (name, '\x7d' :: rest) =>
          (namedBoundary? ascii (String.ofList name)).map fun a => (.assertion a, rest)
        | _ => none
      else some (.assertion (.boundary ascii), cs)
  | _ => some (.assertion (.boundary ascii), cs)

/-- What an escape stands for, after its backslash. -/
def escape [UnicodeNames] (f : Flags) : List Char → Read Escaped
  | [] => none
  | c :: cs =>
    let set (s : CharSet) (negated : Bool) : Read Escaped :=
      (negatable f negated s).map fun s => (.set s, cs)
    if escapesItself c then some (.literal c false, cs)
    else
      match control? c with
      | some x => some (.literal x false, cs)
      | none =>
        match c with
        | 'x' => hexEscape f 2 cs
        | 'u' => hexEscape f 4 cs
        | 'U' => hexEscape f 8 cs
        | 'p' => (propertyEscape f false cs).map fun (s, rest) => (.set s, rest)
        | 'P' => (propertyEscape f true cs).map fun (s, rest) => (.set s, rest)
        | 'd' => set (CharSet.digit f.unicode) false
        | 'D' => set (CharSet.digit f.unicode) true
        | 's' => set (CharSet.blank f.unicode) false
        | 'S' => set (CharSet.blank f.unicode) true
        | 'w' => set (CharSet.word f.unicode) false
        | 'W' => set (CharSet.word f.unicode) true
        | 'A' => some (.assertion .textStart, cs)
        | 'z' => some (.assertion .textEnd, cs)
        | 'b' => boundaryEscape f cs
        | 'B' => some (.assertion (.noBoundary !f.unicode), cs)
        | '<' => some (.assertion (.wordStart !f.unicode), cs)
        | '>' => some (.assertion (.wordEnd !f.unicode), cs)
        | _ => none

/-! ### Sets in brackets -/

/-- A set and how deeply it is nested. -/
structure SetTerm where
  set : CharSet
  depth : Nat := 0

/-- The operations between sets. -/
inductive SetOp
  | intersection
  | difference
  | symmetricDifference

/-- Members side by side. -/
def sideBySide (members : List SetTerm) : SetTerm :=
  match members with
  | [] => ⟨.none, 0⟩
  | [m] => m
  | ms => ⟨CharSet.unions (ms.map (·.set)), (ms.map (·.depth)).foldl max 0 + 1⟩

/-- Two sets combined. Case is ignored in both before they are. -/
def combined (f : Flags) (op : SetOp) (a b : SetTerm) : SetTerm :=
  let x := caseless f a.set
  let y := caseless f b.set
  let set := match op with
    | .intersection => CharSet.inter x y
    | .difference => CharSet.difference x y
    | .symmetricDifference => CharSet.symmetricDifference x y
  ⟨set, max a.depth b.depth + 1⟩

/-- What was read of a set so far, combined with what stands left of the last operator. -/
def pending (f : Flags) (left : Option (SetOp × SetTerm)) (members : List SetTerm) : SetTerm :=
  match left with
  | none => sideBySide members
  | some (op, a) => combined f op a (sideBySide members)

/-- One end of an interval or a member by itself. -/
def setItem [UnicodeNames] (f : Flags) : List Char → Read Escaped
  | [] => none
  | '\\' :: cs => escape f cs
  | c :: cs => some (.literal c false, cs)

/-- A character as a member of a set. Without Unicode only ASCII has members. -/
def memberChar? (f : Flags) : Escaped → Option Char
  | .literal c _ => if f.unicode || c.toNat < 128 then some c else none
  | _ => none

/-- A member of a set that is no interval. -/
def memberSet? (f : Flags) : Escaped → Option CharSet
  | .set s => some s
  | .assertion _ => none
  | e => (memberChar? f e).map .single

/-- A member of a set: a character, an escape or an interval. A hyphen before the end or before
    another hyphen makes no interval. -/
def member [UnicodeNames] (f : Flags) (cs : List Char) : Option (SetTerm × List Char) := do
  let (first, rest) ← setItem f cs
  let rest := skip f rest
  match rest with
  | [] => none
  | '-' :: more =>
    let next := skip f more
    if next.head? = some ']' ∨ next.head? = some '-' then
      (memberSet? f first).map fun s => (⟨s, 0⟩, rest)
    else
      let (last, rest) ← setItem f next
      let a ← memberChar? f first
      let b ← memberChar? f last
      if a ≤ b then some (⟨.interval a b, 0⟩, rest) else none
  | _ => (memberSet? f first).map fun s => (⟨s, 0⟩, rest)

/-- A class of ASCII such as `[:alpha:]`, after its bracket. -/
def asciiClass (f : Flags) (cs : List Char) : Option (Option CharSet × List Char) :=
  match cs with
  | ':' :: cs =>
    let (negated, cs) := match cs with
      | '^' :: cs => (true, cs)
      | cs => (false, cs)
    let name := cs.takeWhile (· ≠ ':')
    match cs.drop name.length with
    | ':' :: ']' :: rest =>
      match CharSet.asciiClass? (String.ofList name) with
      | some s => some (negatable f negated (caseless f s), rest)
      | none => none
    | _ => none
  | _ => none

/-- Hyphens at the start of a set. -/
def leadingHyphens (f : Flags) : Nat → List Char → List SetTerm × List Char
  | 0, cs => ([], cs)
  | n + 1, cs =>
    match cs with
    | '-' :: rest =>
      let (ms, rest) := leadingHyphens f n (skip f rest)
      (⟨.single '-', 0⟩ :: ms, rest)
    | _ => ([], cs)

/-- The start of a set after its bracket: whether it is negated, and its first members, if these are
    hyphens or a closing bracket. -/
def setStart (f : Flags) (cs : List Char) : Bool × List SetTerm × List Char :=
  let cs := skip f cs
  let (negated, cs) := match cs with
    | '^' :: cs => (true, skip f cs)
    | cs => (false, cs)
  match leadingHyphens f (cs.length + 1) cs with
  | ([], ']' :: rest) => (negated, [⟨.single ']', 0⟩], skip f rest)
  | (ms, rest) => (negated, ms, rest)

/-- The rest of a set after the members that were read: `left` is what stands left of the last
    operator. -/
def setBody [UnicodeNames] (f : Flags) :
    Nat → Bool → Option (SetOp × SetTerm) → List SetTerm → List Char → Read SetTerm
  | 0, _, _, _, _ => none
  | n + 1, negated, left, members, cs =>
    let operator (op : SetOp) (rest : List Char) : Read SetTerm :=
      setBody f n negated (some (op, pending f left members)) [] rest
    match skip f cs with
    | [] => none
    | '[' :: rest =>
      match asciiClass f rest with
      | some (some s, rest) => setBody f n negated left (members ++ [⟨s, 0⟩]) rest
      | some (none, _) => none
      | none =>
        let (innerNegated, first, more) := setStart f rest
        match setBody f n innerNegated none first more with
        | some (inner, rest) => setBody f n negated left (members ++ [inner]) rest
        | none => none
    | ']' :: rest =>
      let all := pending f left members
      (negatable f negated (caseless f all.set)).map fun s => (⟨s, all.depth + 1⟩, rest)
    | '&' :: '&' :: rest => operator .intersection rest
    | '-' :: '-' :: rest => operator .difference rest
    | '~' :: '~' :: rest => operator .symmetricDifference rest
    | cs =>
      match member f cs with
      | some (m, rest) => setBody f n negated left (members ++ [m]) rest
      | none => none

/-- A set after its opening bracket. -/
def bracketed [UnicodeNames] (f : Flags) (cs : List Char) : Read SetTerm :=
  let (negated, first, rest) := setStart f cs
  setBody f (cs.length + 1) negated none first rest

/-! ### Groups -/

/-- Whether a character may stand in the name of a group. -/
def isNameChar (isFirst : Bool) (c : Char) : Bool :=
  c = '_' || Unicode.Property.alphabetic.contains c ||
    (!isFirst && (c = '.' || c = '[' || c = ']' || Unicode.Category.decimalNumber.contains c ||
      Unicode.Category.letterNumber.contains c || Unicode.Category.otherNumber.contains c))

/-- The name of a group up to its closing angle, and the text after that. -/
def groupName (cs : List Char) : Read String :=
  let name := cs.takeWhile (· ≠ '>')
  match cs.drop name.length, name with
  | '>' :: rest, first :: others =>
    if isNameChar true first && others.all (isNameChar false) then
      some (String.ofList name, rest)
    else none
  | _, _ => none

/-- One flag switched. -/
def Flags.switch (f : Flags) (on : Bool) : Char → Option Flags
  | 'i' => some { f with ignoreCase := on }
  | 'm' => some { f with multiLine := on }
  | 's' => some { f with dotAll := on }
  | 'R' => some { f with carriage := on }
  | 'u' => some { f with unicode := on }
  | 'x' => some { f with extended := on }
  | 'U' => some f
  | _ => none

/-- Flags up to a colon or a closing parenthesis, which is left. No flag may be there twice, and
    something must follow a hyphen. -/
def switches (f : Flags) (seen : List Char) : List Char → Option (Flags × List Char × List Char)
  | [] => none
  | c :: cs =>
    if c = ':' ∨ c = ')' then
      if seen.head? = some '-' then none else some (f, seen, c :: cs)
    else if seen.contains c then none
    else if c = '-' then switches f (c :: seen) cs
    else
      match f.switch (!seen.contains '-') c with
      | some f => switches f (c :: seen) cs
      | none => none

/-- How a group starts. -/
inductive Opening
  | directive (f : Flags)
  | group (f : Flags) (name : Option String)

/-- The start of a group after its parenthesis. -/
def opening (f : Flags) (cs : List Char) : Read Opening :=
  match skip f cs with
  | '?' :: '=' :: _ => none
  | '?' :: '!' :: _ => none
  | '?' :: '<' :: '=' :: _ => none
  | '?' :: '<' :: '!' :: _ => none
  | '?' :: 'P' :: '<' :: rest =>
    (groupName rest).map fun (name, rest) => (.group f (some name), rest)
  | '?' :: '<' :: rest => (groupName rest).map fun (name, rest) => (.group f (some name), rest)
  | '?' :: rest =>
    match switches f [] rest with
    | some (g, _, ':' :: rest) => some (.group g none, rest)
    | some (g, seen, ')' :: rest) => if seen.isEmpty then none else some (.directive g, rest)
    | _ => none
  | rest => some (.group f none, rest)

/-! ### Sequences and alternatives -/

/-- The parts of a sequence in one. -/
def sequence (items : List Item) : Term :=
  let terms := items.filterMap fun
    | .term t => some t
    | .directive => none
  let depth := (terms.map (·.depth)).foldl max 0
  ⟨terms.foldr (fun t p => if p = .empty then t.pattern else .seq t.pattern p) .empty,
    if 1 < items.length then depth + 1 else depth⟩

/-- Alternatives in one. -/
def alternatives (terms : List Term) : Term :=
  match terms with
  | [] => ⟨.empty, 0⟩
  | [t] => t
  | t :: ts =>
    ⟨ts.foldl (fun p u => .alt p u.pattern) t.pattern,
      ((t :: ts).map (·.depth)).foldl max 0 + 1⟩

/-- The last part of a sequence repeated. Items are in reverse. -/
def repeatLast (least : Nat) (most : Option Nat) : List Item → Option (List Item)
  | .term t :: items => some (.term ⟨.repeated t.pattern least most, t.depth + 1⟩ :: items)
  | _ => none

/-- A text without one question mark in front, which makes a repetition prefer fewer. -/
def afterLazy : List Char → List Char
  | '?' :: cs => cs
  | cs => cs

/-- The counts of a repetition after its opening brace. -/
def counts (f : Flags) (cs : List Char) :
    Option ((Nat × Option Nat) × List Char) := do
  let finish (least : Nat) (most : Option Nat) (rest : List Char) : Read (Nat × Option Nat) :=
    match most with
    | some m => if least ≤ m then some ((least, most), afterLazy (skip f rest)) else none
    | none => some ((least, none), afterLazy (skip f rest))
  let (least, rest) ← count f (skip f cs)
  match rest with
  | '\x7d' :: rest => finish least (some least) rest
  | ',' :: rest =>
    match skip f rest with
    | '\x7d' :: rest => finish least none rest
    | rest =>
      let (most, rest) ← count f rest
      match rest with
      | '\x7d' :: rest => finish least (some most) rest
      | _ => none
  | _ => none

/-- The pattern of a character that stands for itself. -/
def literal (f : Flags) (c : Char) : Pattern :=
  .char (caseless f (.single c))

/-- The pattern of an escape. -/
def ofEscaped (f : Flags) : Escaped → Option Pattern
  | .literal c isByte =>
    if !f.unicode && isByte && 128 ≤ c.toNat then none
    else if f.unicode || c.toNat < 128 then some (literal f c)
    else some (.char (.single c))
  | .set s => some (.char s)
  | .assertion a => some (.look a)

/-- The pattern of a character outside of sets. -/
def plain (f : Flags) (c : Char) : Option Pattern :=
  match c with
  | '.' =>
    if !f.unicode then none
    else if f.dotAll then some (.char (.complement .none))
    else if f.carriage then
      some (.char (.complement (.union (.single '\n') (.single '\r'))))
    else some (.char (.complement (.single '\n')))
  | '^' =>
    some (.look (if !f.multiLine then .textStart
      else if f.carriage then .carriageLineStart else .lineStart))
  | '$' =>
    some (.look (if !f.multiLine then .textEnd
      else if f.carriage then .carriageLineEnd else .lineEnd))
  | c => ofEscaped f (.literal c false)

/-- What is read of a group so far: the flags in force, the names of groups, the alternatives before
    the current one and the items of the current one, both in reverse. -/
structure State where
  flags : Flags := {}
  names : List String := []
  alternatives : List Term := []
  items : List Item := []

/-- A state with one more item. -/
def State.push (s : State) (item : Item) : State :=
  { s with items := item :: s.items }

/-- A state with one more part. -/
def State.pushPattern (s : State) (p : Pattern) : State :=
  s.push (.term ⟨p, 0⟩)

/-- All that was read of a group. -/
def State.finished (s : State) : Term :=
  Pattern.alternatives (s.alternatives.reverse ++ [sequence s.items.reverse])

/-- Reads the rest of a group, up to its closing parenthesis or the end: the group, the names of
    groups, and the text from there. -/
def group [UnicodeNames] : Nat → State → List Char → Option (Term × List String × List Char)
  | 0, _, _ => none
  | n + 1, s, cs =>
    let f := s.flags
    let repetition (least : Nat) (most : Option Nat) (rest : List Char) :=
      match repeatLast least most s.items with
      | some items => group n { s with items } rest
      | none => none
    match skip f cs with
    | [] => some (s.finished, s.names, [])
    | ')' :: rest => some (s.finished, s.names, ')' :: rest)
    | '|' :: rest =>
      group n { s with
        alternatives := sequence s.items.reverse :: s.alternatives, items := [] } rest
    | '(' :: rest =>
      match opening f rest with
      | none => none
      | some (.directive flags, rest) => group n ({ s with flags }.push .directive) rest
      | some (.group flags name, rest) =>
        if name.any s.names.contains then none
        else
          match group n { flags, names := name.toList ++ s.names } rest with
          | some (t, names, ')' :: rest) =>
            group n ({ s with names }.push (.term ⟨t.pattern, t.depth + 1⟩)) rest
          | _ => none
    | '[' :: rest =>
      match bracketed f rest with
      | some (set, rest) => group n (s.push (.term ⟨.char set.set, set.depth⟩)) rest
      | none => none
    | '?' :: rest => repetition 0 (some 1) (afterLazy rest)
    | '*' :: rest => repetition 0 none (afterLazy rest)
    | '+' :: rest => repetition 1 none (afterLazy rest)
    | '\x7b' :: rest =>
      match counts f rest with
      | some ((least, most), rest) => repetition least most rest
      | none => none
    | '\\' :: rest =>
      match escape f rest with
      | none => none
      | some (e, rest) =>
        match ofEscaped f e with
        | some p => group n (s.pushPattern p) rest
        | none => none
    | c :: rest =>
      match plain f c with
      | some p => group n (s.pushPattern p) rest
      | none => none

/-! ### Whole texts -/

/-- The pattern that a text writes, however large its program is. -/
def written? [UnicodeNames] (s : String) : Option Pattern :=
  match group (2 * s.length + 2) {} s.toList with
  | some (t, _, []) => if t.depth ≤ depthLimit then some t.pattern else none
  | _ => none

/-- The pattern that a text writes, if the library takes its program. -/
def parse? [PatternLibrary] (s : String) : Option Pattern :=
  (written? s).filter fun _ => PatternLibrary.fits s

end Pattern

end RunReport
