import RunReport.Unicode.Category
import RunReport.Unicode.Lowercase
import RunReport.Url.Host
import RunReport.Url.Punycode

/-!
# International Names

Names of hosts in letters of ASCII, as the program itself makes them.

The letters of a name are first brought into lower case and into their usual forms. The parts of a
name that then still have characters outside of ASCII are written in Punycode, behind a sign for it.
A part that has this sign must be what would have been written.

## Main definitions

* `Host.nameChar`: What a character is in a name.
* `Host.name?`: A name in letters of ASCII.
* `HostLibrary.standard`: The names of the program.
-/

namespace RunReport

namespace Host

/-- Whether a character outside of ASCII cannot stand in a name. -/
def deniedInWord (c : Char) : Bool :=
  [Unicode.Category.control, Unicode.Category.format, Unicode.Category.surrogate,
    Unicode.Category.privateUse, Unicode.Category.unassigned, Unicode.Category.spaceSeparator,
    Unicode.Category.lineSeparator, Unicode.Category.paragraphSeparator].any (·.contains c)

/-- Whether a character combines with the one before it. -/
def isMark (c : Char) : Bool :=
  [Unicode.Category.nonspacingMark, Unicode.Category.spacingMark,
    Unicode.Category.enclosingMark].any (·.contains c)

/-- Small letters that stand for others: older forms of letters, and letters written as one. -/
def otherForms : List (Char × String) :=
  [('\u00B5', "\u03BC"), ('\u017F', "s"), ('\u03D0', "\u03B2"), ('\u03D1', "\u03B8"),
   ('\u03D5', "\u03C6"), ('\u03D6', "\u03C0"), ('\u03F0', "\u03BA"), ('\u03F1', "\u03C1"),
   ('\u03F5', "\u03B5"), ('\u1E9B', "\u1E61"), ('\u1FBE', "\u03B9"), ('\uFB00', "ff"),
   ('\uFB01', "fi"), ('\uFB02', "fl"), ('\uFB03', "ffi"), ('\uFB04', "ffl"), ('\uFB05', "st"),
   ('\uFB06', "st")]

/-- The characters that a name has instead of one: letters in lower case and in their usual forms,
    the wide forms of ASCII in their plain forms, full stops of all scripts as points, and nothing
    for characters that only say how to break a line. -/
def nameChar (c : Char) : List Char :=
  let n := c.toNat
  if n < 128 then [c.toLower]
  else if n = 0xAD ∨ n = 0x200B ∨ n = 0x2060 ∨ n = 0xFEFF then []
  else if n = 0x3002 ∨ n = 0xFF61 then ['.']
  else if 0xFF01 ≤ n ∧ n ≤ 0xFF5E then [(Char.ofNat (n - 0xFEE0)).toLower]
  else
    match otherForms.find? (·.1 = c) with
    | some form => form.2.toList
    | none => Unicode.Lowercase.lower c

/-- One part of a name in letters of ASCII. -/
def label? (part : List Char) : Option (List Char) :=
  let wellFormed (word : List Char) : Bool :=
    word.all (fun c => c.toNat < 128 || !deniedInWord c) &&
      !(word.head?.map isMark).getD false
  if part.all (·.toNat < 128) then
    match part with
    | 'x' :: 'n' :: '-' :: '-' :: rest =>
      match Punycode.decode? rest with
      | some word =>
        if word.any (128 ≤ ·.toNat) && wellFormed word && word.flatMap nameChar = word &&
          Punycode.encode word = rest then some part else none
      | none => none
    | _ => some part
  else if wellFormed part then some ('x' :: 'n' :: '-' :: '-' :: Punycode.encode part)
  else none

/-- A name in letters of ASCII. -/
def name? (cs : List Char) : Option (List Char) :=
  ((segments '.' (cs.flatMap nameChar)).mapM label?).map (joined '.')

/-- Whether a name is made of digits and points. -/
def isNumbers (cs : List Char) : Bool :=
  cs.all fun c => c.isDigit || c = '.'

/-- The usual form of a name, which is refused if it would not be kept. -/
def usual? (cs : List Char) : Option (List Char) :=
  if isNumbers cs then some cs else (name? cs).filter fun name => name? name = some name

theorem usual?_numbers (cs : List Char) (h : ∀ c ∈ cs, c.isDigit ∨ c = '.') :
    usual? cs = some cs := by
  refine if_pos (List.all_eq_true.mpr fun c hc => ?_)
  rw [Bool.or_eq_true, decide_eq_true_eq]
  exact h c hc

theorem usual?_usual? (cs name : List Char) (h : usual? cs = some name) :
    usual? name = some name := by
  unfold usual? at h
  split at h
  · next hnumbers =>
      rw [← Option.some.inj h, usual?, if_pos hnumbers]
  · rcases Option.filter_eq_some_iff.mp h with ⟨-, hkept⟩
    rw [decide_eq_true_eq] at hkept
    rw [usual?, hkept, Option.filter_some, hkept, if_pos (decide_eq_true rfl), ite_self]

end Host

/-- The names of the program. -/
instance HostLibrary.standard : HostLibrary where
  ascii? := Host.usual?
  ascii?_ascii? := Host.usual?_usual?
  ascii?_numbers := Host.usual?_numbers

end RunReport
