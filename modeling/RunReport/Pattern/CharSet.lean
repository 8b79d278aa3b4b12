import RunReport.Unicode.Folding
import RunReport.Unicode.Ranges

/-!
# Character Sets

Sets of characters, built from ranges by the operations that a pattern can write.

A set is kept as it is written, and `contains` decides membership from the parts. Nothing has to be
brought into a normal form for that, not even a complement.

## Main definitions

* `CharSet`: A set of characters.
* `CharSet.contains`: Whether a character belongs to a set.
* `CharSet.difference`, `CharSet.symmetricDifference`: Derived operations.
-/

namespace RunReport

open Unicode (Ranges)

/-- A set of characters. -/
inductive CharSet
  | ranges (rs : Ranges)
  | union (a b : CharSet)
  | inter (a b : CharSet)
  | complement (a : CharSet)
  | folded (a : CharSet)
  deriving DecidableEq

namespace CharSet

/-- Whether a character belongs to a set. A folded set also has every letter that differs only in
    case from one that the set has. -/
def contains : CharSet → Char → Bool
  | ranges rs, c => rs.contains c
  | union a b, c => a.contains c || b.contains c
  | inter a b, c => a.contains c && b.contains c
  | complement a, c => !a.contains c
  | folded a, c => (Unicode.Folding.variants c).any a.contains

/-- No character. -/
def none : CharSet :=
  ranges []

/-- One character. -/
def single (c : Char) : CharSet :=
  ranges [(c.toNat, c.toNat)]

/-- The characters from one to another. -/
def interval (first last : Char) : CharSet :=
  ranges [(first.toNat, last.toNat)]

/-- The 128 characters of ASCII. -/
def ascii : CharSet :=
  ranges [(0, 127)]

/-- The characters of one set that another does not have. -/
def difference (a b : CharSet) : CharSet :=
  inter a (complement b)

/-- The characters that exactly one of two sets has. -/
def symmetricDifference (a b : CharSet) : CharSet :=
  union (difference a b) (difference b a)

/-- The characters that one of several sets has. -/
def unions : List CharSet → CharSet
  | [] => none
  | [a] => a
  | a :: as => union a (unions as)

end CharSet

end RunReport
