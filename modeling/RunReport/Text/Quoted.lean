import RunReport.Text.Numeral
import RunReport.Unicode.Category
import RunReport.Unicode.Property

/-!
# Quoted Text

A text between quotation marks, as a message shows it.

Marks, backslashes and the common control characters are written with a backslash in front. So that
nothing in a message is invisible, a character that has no shape of its own, or that only changes
the shape of the one before it, is written as its number.

## Main definitions

* `Quoted.isShown`: Whether a character stands for itself.
* `Quoted.quote`: A text in quotation marks.
-/

namespace RunReport

namespace Quoted

open Unicode

/-- The characters without a shape of their own; the space is not among them. -/
def shapeless : List Ranges :=
  [Category.control, Category.format, Category.surrogate, Category.privateUse, Category.unassigned,
    Category.spaceSeparator, Category.lineSeparator, Category.paragraphSeparator]

/-- Whether a character stands for itself. -/
def isShown (c : Char) : Bool :=
  c = ' ' || !(shapeless.any (·.contains c) || Property.graphemeExtend.contains c)

/-- The hexadecimal digits of a number. -/
def hexadecimal (n : Nat) : List Char :=
  Nat.toDigits 16 n

/-- A character as its number. -/
def number (c : Char) : List Char :=
  "\\u\x7b".toList ++ hexadecimal c.toNat ++ ['\x7d']

/-- A character in a quoted text. -/
def quoteChar : Char → List Char
  | '"' => ['\\', '"']
  | '\\' => ['\\', '\\']
  | '\n' => ['\\', 'n']
  | '\r' => ['\\', 'r']
  | '\t' => ['\\', 't']
  | '\x00' => ['\\', '0']
  | c => if isShown c then [c] else number c

/-- A text in quotation marks. -/
def quote (s : String) : String :=
  String.ofList ('"' :: s.toList.flatMap quoteChar ++ ['"'])

end Quoted

end RunReport
