import RunReport.Unicode.Category
import RunReport.Unicode.Folding

/-!
# Lower Case

Texts in lower case, in any script.

A capital letter becomes the small letter that folds to the same letter. Where there are several
small letters, the others have uses of their own: the micro sign, the sigma at the end of a word,
the iota under a vowel, and the unblended uk. One capital has a small letter of two characters.

## Main definitions

* `Lowercase.lower`: A character in lower case.
* `Lowercase.text`: A text in lower case.
-/

namespace RunReport

namespace Unicode

namespace Lowercase

/-- Whether a character is a capital letter, or a letter-like sign with a small form. -/
def isCapital (c : Char) : Bool :=
  Category.uppercaseLetter.contains c || Category.titlecaseLetter.contains c ||
    (0x2160 ≤ c.toNat && c.toNat ≤ 0x216F) || (0x24B6 ≤ c.toNat && c.toNat ≤ 0x24CF)

/-- Small letters that no capital letter becomes. -/
def aside : List Char :=
  ['\u00B5', '\u03C2', '\u0345', '\u1C88']

/-- A character in lower case. -/
def lower (c : Char) : List Char :=
  if c = '\u0130' then ['i', '\u0307']
  else if isCapital c then
    [((Folding.variants c).find? fun v => !isCapital v && !aside.contains v).getD c]
  else [c]

/-- A text in lower case. -/
def text (s : String) : String :=
  String.ofList (s.toList.flatMap lower)

end Lowercase

end Unicode

end RunReport
