/-!
# Blanks

The characters that separate words in any script, and cutting them off the ends of a text.

Names, codes and numbers reach a report from people and from other tools, so a stray no-break
space has to count as a blank as much as a space does. The set is the white space of Unicode: 25
characters, written out here, since the classes of `Char` know ASCII only.

## Main definitions

* `isBlank`: One of the 25 white-space characters.
* `trim`: A text without the blanks at its ends.

## Theorems

* `trimStart_append`: Only blanks are cut off.
-/

namespace RunReport

namespace Text

/-- Whether a character is white space in Unicode. -/
def isBlank (c : Char) : Bool :=
  let n := c.toNat
  (0x09 ≤ n && n ≤ 0x0D) || n == 0x20 || n == 0x85 || n == 0xA0 || n == 0x1680 ||
    (0x2000 ≤ n && n ≤ 0x200A) || n == 0x2028 || n == 0x2029 || n == 0x202F || n == 0x205F ||
    n == 0x3000

/-- A text without the blanks it starts with. -/
def trimStart (cs : List Char) : List Char :=
  cs.dropWhile isBlank

/-- A text without the blanks it ends with. -/
def trimEnd (cs : List Char) : List Char :=
  (cs.reverse.dropWhile isBlank).reverse

/-- A text without the blanks at either end. -/
def trim (cs : List Char) : List Char :=
  trimEnd (trimStart cs)

/-- What `trimStart` cuts off is blank. -/
theorem trimStart_append (cs : List Char) :
    cs.takeWhile isBlank ++ trimStart cs = cs :=
  List.takeWhile_append_dropWhile

end Text

/-- A string without the blanks at either end. -/
def trimmed (s : String) : String :=
  String.ofList (Text.trim s.toList)

end RunReport
