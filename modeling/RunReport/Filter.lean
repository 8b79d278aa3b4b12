import RunReport.Group
import RunReport.Pattern.Parser
import RunReport.Suite

/-!
# Name Filters

Which groups or suites a reader of a page wants to see.

A filter is a pattern that has to match a name from its first to its last character. It is written
as the middle of a larger pattern, between an opening and a closing part that hold it to both ends
of the name.

## Main definitions

* `NameFilter`: A filter for names.
* `NameFilter.read?`: The filter that an expression writes.
* `TestGroup.filtered`, `SuiteSummary.filtered`: The groups and suites that a filter keeps.
-/

namespace RunReport

/-- A filter for names. -/
structure NameFilter where
  pattern : Pattern
  deriving DecidableEq

namespace NameFilter

/-- The pattern in which an expression stands for a whole name. -/
def wholeName (expression : String) : String :=
  "^(?:" ++ expression ++ ")$"

/-- The filter that an expression writes. -/
def read? [PatternLibrary] (expression : String) : Option NameFilter :=
  (Pattern.parse? (wholeName expression)).map mk

/-- Whether a filter keeps a name. -/
def accepts (f : NameFilter) (name : String) : Bool :=
  f.pattern.isMatch name

end NameFilter

/-- The groups whose names a filter keeps. -/
def TestGroup.filtered (f : NameFilter) (gs : List TestGroup) : List TestGroup :=
  gs.filter fun g => f.accepts g.name

/-- The suites whose names a filter keeps. -/
def SuiteSummary.filtered (f : NameFilter) (suites : List SuiteSummary) : List SuiteSummary :=
  suites.filter fun s => f.accepts s.name

end RunReport
