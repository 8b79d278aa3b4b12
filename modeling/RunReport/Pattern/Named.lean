import RunReport.Pattern.Basic

/-!
# Named Character Sets

The sets that every pattern can name: digits, blanks and word characters, and the classes of ASCII.

## Main definitions

* `CharSet.digit`, `CharSet.blank`, `CharSet.word`: The three sets with a letter of their own.
* `CharSet.asciiClass?`: A class of ASCII by its name.
-/

namespace RunReport

open Unicode (Ranges)

namespace CharSet

/-- The decimal digits: of all scripts, or of ASCII. -/
def digit (unicode : Bool) : CharSet :=
  if unicode then ranges Unicode.Category.decimalNumber else interval '0' '9'

/-- The blanks: of Unicode, or of ASCII. -/
def blank (unicode : Bool) : CharSet :=
  if unicode then ranges Unicode.Property.whiteSpace else ranges [(9, 13), (32, 32)]

/-- The characters of words: of all scripts, or of ASCII. -/
def word (unicode : Bool) : CharSet :=
  if unicode then
    unions (([Unicode.Property.alphabetic, Unicode.Category.nonspacingMark,
      Unicode.Category.spacingMark, Unicode.Category.enclosingMark,
      Unicode.Category.decimalNumber, Unicode.Category.connectorPunctuation,
      Unicode.Property.joinControl]).map ranges)
  else ranges [(48, 57), (65, 90), (95, 95), (97, 122)]

/-- The classes of ASCII with their names. -/
def asciiClasses : List (String × Ranges) :=
  [("alnum", [(48, 57), (65, 90), (97, 122)]),
   ("alpha", [(65, 90), (97, 122)]),
   ("ascii", [(0, 127)]),
   ("blank", [(9, 9), (32, 32)]),
   ("cntrl", [(0, 31), (127, 127)]),
   ("digit", [(48, 57)]),
   ("graph", [(33, 126)]),
   ("lower", [(97, 122)]),
   ("print", [(32, 126)]),
   ("punct", [(33, 47), (58, 64), (91, 96), (123, 126)]),
   ("space", [(9, 13), (32, 32)]),
   ("upper", [(65, 90)]),
   ("word", [(48, 57), (65, 90), (95, 95), (97, 122)]),
   ("xdigit", [(48, 57), (65, 70), (97, 102)])]

/-- A class of ASCII by its name. -/
def asciiClass? (name : String) : Option CharSet :=
  (asciiClasses.find? (·.1 = name)).map fun c => ranges c.2

end CharSet

end RunReport
