import RunReport.Text.FormEncoding

/-!
# Percent Encoding

Which characters of a URL are written by the hexadecimal digits of their bytes.

Control characters and everything outside of ASCII always are. What else is depends on the part of
the URL: each part has its own signs that would end it or mean something in it.

## Main definitions

* `Percent.encode`: A text with some characters of ASCII and all others written by their bytes.
* `Percent.inPath`, `Percent.inQuery`, …: The signs that need it in each part.
-/

namespace RunReport

namespace Percent

/-- Whether a character is always written by its bytes. -/
def isControl (c : Char) : Bool :=
  c.toNat < 0x20 || 0x7F ≤ c.toNat

/-- How a character is written where some characters need it. -/
def encodeChar (needs : Char → Bool) (c : Char) : List Char :=
  if isControl c || needs c then (Utf8.encodeChar c).flatMap FormEncoding.percent else [c]

/-- A text in which the characters that need it are written by their bytes. -/
def encode (needs : Char → Bool) (cs : List Char) : List Char :=
  cs.flatMap (encodeChar needs)

/-- No sign needs it in a host without meaning or a path without structure. -/
def nowhere (_ : Char) : Bool :=
  false

/-- The signs that need it in a fragment. -/
def inFragment (c : Char) : Bool :=
  [' ', '"', '<', '>', '\x60'].contains c

/-- The signs that need it in a query. -/
def inQuery (c : Char) : Bool :=
  [' ', '"', '#', '<', '>'].contains c

/-- The signs that need it in a query of one of the common schemes. -/
def inCommonQuery (c : Char) : Bool :=
  inQuery c || c = '\''

/-- The signs that need it in a path. -/
def inPath (c : Char) : Bool :=
  inFragment c || ['#', '?', '\x7b', '\x7d'].contains c

/-- The signs that need it in a user name or a password. -/
def inUser (c : Char) : Bool :=
  inPath c || ['/', ':', ';', '=', '@', '[', '\\', ']', '^', '|'].contains c

end Percent

end RunReport
