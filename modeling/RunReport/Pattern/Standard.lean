import RunReport.Pattern.Parser
import RunReport.Unicode.Age
import RunReport.Unicode.Break
import RunReport.Unicode.Script
import RunReport.Unicode.ScriptExtension

/-!
# The Library of the Program

The sets of Unicode and the bound that the program itself uses when it reads patterns.

A name of Unicode is compared without its case, blanks, hyphens, underscores and a leading `is`. A
name by itself is first taken for a property, then for a category, then for a script. Three short
names of categories would also name properties, and there the category is meant.

How large the program of a text becomes is estimated: by the ranges of its sets, with repetitions
written out.

## Main definitions

* `CharSet.named?`, `CharSet.valued?`: A set of Unicode by its name, or by a property and a value.
* `Pattern.size`: An estimate for the program of a pattern.
* `PatternLibrary.standard`: The library of the program.
-/

namespace RunReport

open Unicode (Ranges)

namespace CharSet

/-- A name as names of Unicode are compared. The abbreviation `isc` is not a `c` with a leading
    `is`. -/
def plainName (name : List Char) : String :=
  let keep (cs : List Char) : List Char :=
    (cs.filter fun c => c ≠ ' ' && c ≠ '_' && c ≠ '-' && c.toNat < 128).map Char.toLower
  match name with
  | i :: s :: rest =>
    if i.toLower = 'i' ∧ s.toLower = 's' then
      let kept := keep rest
      if kept = ['c'] then "isc" else String.ofList kept
    else String.ofList (keep name)
  | _ => String.ofList (keep name)

/-- The entry of a table with a short or a long name. -/
def listed? (table : List (String × String × Ranges)) (name : String) :
    Option (String × String × Ranges) :=
  table.find? fun e => plainName e.1.toList = name || plainName e.2.1.toList = name

/-- The set that a table has under a short or a long name. -/
def lookup (table : List (String × String × Ranges)) (name : String) : Option CharSet :=
  (listed? table name).map (ranges ·.2.2)

/-- Further names of categories. -/
def categoryAliases : List (String × String) :=
  [("digit", "nd"), ("punct", "p"), ("cntrl", "cc"), ("combiningmark", "m")]

/-- The groups of categories: their names, and the short names of their members. -/
def categoryGroups : List (List String × List String) :=
  [(["l", "letter"], ["Lu", "Ll", "Lt", "Lm", "Lo"]),
   (["lc", "casedletter"], ["Lu", "Ll", "Lt"]),
   (["m", "mark"], ["Mn", "Mc", "Me"]),
   (["n", "number"], ["Nd", "Nl", "No"]),
   (["p", "punctuation"], ["Pc", "Pd", "Ps", "Pe", "Pi", "Pf", "Po"]),
   (["s", "symbol"], ["Sm", "Sc", "Sk", "So"]),
   (["z", "separator"], ["Zs", "Zl", "Zp"]),
   (["c", "other"], ["Cc", "Cf", "Cs", "Co", "Cn"])]

/-- A general category, or a group of them. -/
def category? (name : String) : Option CharSet :=
  let name := ((categoryAliases.find? (·.1 = name)).map (·.2)).getD name
  if name = "any" then some (complement none)
  else if name = "ascii" then some ascii
  else if name = "assigned" then some (complement (ranges Unicode.Category.unassigned))
  else
    match categoryGroups.find? (·.1.contains name) with
    | some (_, members) =>
      some (unions ((Unicode.Category.table.filter (members.contains ·.1)).map (ranges ·.2.2)))
    | Option.none => lookup Unicode.Category.table name

/-- The name by which a script is found. Two scripts have a second short name. -/
def scriptName (name : String) : String :=
  if name = "qaac" then "coptic" else if name = "qaai" then "inherited" else name

/-- A script. -/
def script? (name : String) : Option CharSet :=
  lookup Unicode.Script.table (scriptName name)

/-- The characters that a script uses. -/
def scriptExtension? (name : String) : Option CharSet := do
  let (short, _, own) ← listed? Unicode.Script.table (scriptName name)
  match Unicode.ScriptExtension.limited.lookup short with
  | some others => some (difference (ranges own) (ranges others))
  | Option.none =>
    let more := (Unicode.ScriptExtension.borrowed.lookup short).toList
    some (unions ((own :: more).map ranges))

/-- The characters that were assigned in a version or before it. -/
def age? (name : String) : Option CharSet := do
  let (version, _, added) ← listed? Unicode.Age.table name
  let before := (Unicode.Age.table.takeWhile (·.1 ≠ version)).map (·.2.2)
  some (unions ((before ++ [added]).map ranges))

/-- A set of Unicode by its name. -/
def named? (name : List Char) : Option CharSet :=
  let name := plainName name
  let property :=
    if name = "cf" ∨ name = "sc" ∨ name = "lc" then Option.none
    else lookup Unicode.Property.table name
  property.or ((category? name).or (script? name))

/-- A set of Unicode by a property and a value of it. -/
def valued? (property value : List Char) : Option CharSet :=
  let property := plainName property
  let value := plainName value
  if ["gc", "generalcategory"].contains property then category? value
  else if ["sc", "script"].contains property then script? value
  else if ["scx", "scriptextensions"].contains property then scriptExtension? value
  else if property = "age" then age? value
  else if ["gcb", "graphemeclusterbreak"].contains property then
    lookup Unicode.Break.clusters value
  else if ["wb", "wordbreak"].contains property then lookup Unicode.Break.words value
  else if ["sb", "sentencebreak"].contains property then lookup Unicode.Break.sentences value
  else Option.none

end CharSet

namespace Pattern

/-- How many ranges a set is written with. -/
def setSize : CharSet → Nat
  | .ranges rs => rs.length
  | .union a b => setSize a + setSize b
  | .inter a b => setSize a + setSize b
  | .complement a => setSize a + 1
  | .folded a => 2 * setSize a

/-- The size of a pattern with its repetitions written out, in units of one character. -/
def size : Pattern → Nat
  | empty => 0
  | char set => 2 * setSize set - 1
  | look _ => 1
  | seq p q => size p + size q
  | alt p q => size p + size q + 1
  | repeated p least most =>
    match most with
    | some m => least * size p + (m - least) * (size p + 1)
    | none => (least + 1) * size p + 1

/-- How large a pattern may become. -/
def sizeLimit : Nat := 327680

end Pattern

/-- The names of Unicode that the program knows. -/
@[reducible] def UnicodeNames.standard : UnicodeNames where
  named? := CharSet.named?
  valued? := CharSet.valued?

/-- The pattern that a text writes with these names. -/
def Pattern.known? (text : String) : Option Pattern :=
  @Pattern.written? UnicodeNames.standard text

/-- The library of the program. -/
instance PatternLibrary.standard : PatternLibrary where
  toUnicodeNames := UnicodeNames.standard
  fits text := (Pattern.known? text).all fun p => p.size ≤ Pattern.sizeLimit
  complaint text :=
    if (Pattern.known? text).isSome then "Compiled regex exceeds size limit of 10485760 bytes."
    else "regex parse error:\n    " ++ text

end RunReport
