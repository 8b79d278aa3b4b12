import RunReport.Pattern.CharSet

/-!
# The Library of Patterns

What reading a pattern takes from a library of regular expressions.

How a pattern is written and what it matches is said in this development. Three things are taken as
the library has them: the sets of Unicode that it knows by name, whether the program that it makes
of a text is small enough for it, and how it describes a text that it refuses. None of them is
assumed to follow any law.

## Main definitions

* `UnicodeNames`: The sets of Unicode that a pattern can name.
* `PatternLibrary`: These sets, a bound on programs, and descriptions of what is refused.
-/

namespace RunReport

/-- The sets of Unicode that a pattern can name: by a name, or by a property and a value. -/
class UnicodeNames where
  named? : List Char → Option CharSet
  valued? : List Char → List Char → Option CharSet

/-- The names of sets, whether the program of a text is small enough, and what is said of a text
    that is refused. -/
class PatternLibrary extends UnicodeNames where
  fits : String → Bool
  complaint : String → String

end RunReport
