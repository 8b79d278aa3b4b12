import RunReport.Bucket
import RunReport.Highlight
import RunReport.Text.Blank

/-!
# Suite Summaries

One line for all tests that ran in a suite.

Tests share a line if they have the same group name, without the blanks around it; a test without
one is counted under its suite number, and one without either under `Ungrouped`. A line is built up
test by test: it counts the tests by outcome, adds up their times and folds their statuses. As long
as a test of the suite has no outcome the line is incomplete.

## Main definitions

* `SuiteTotals`: The counts of a line.
* `SuiteSummary`: A line, and `SuiteSummary.add` one more test.
* `SuiteSummary.ofTests`: The lines of a list of records.
* `SuiteSummary.classes`: The style classes of a line's cells.
-/

namespace RunReport

/-- How many tests of a suite had which outcome. -/
structure SuiteTotals where
  passing : Nat := 0
  failing : Nat := 0
  skipped : Nat := 0
  blacklisted : Nat := 0
  killed : Nat := 0
  long : Nat := 0
  total : Nat := 0
  deriving DecidableEq

namespace SuiteTotals

/-- The tests that have an outcome. -/
def completed (t : SuiteTotals) : Nat :=
  t.passing + t.failing + t.skipped + t.blacklisted + t.killed

/-- Whether a test of the suite has no outcome yet. -/
def isIncomplete (t : SuiteTotals) : Bool :=
  t.completed < t.total

/-- The counts by outcome after one more test of a status. -/
def countStatus (t : SuiteTotals) : Status → SuiteTotals
  | .pass => { t with passing := t.passing + 1 }
  | .fail => { t with failing := t.failing + 1 }
  | .error => { t with failing := t.failing + 1 }
  | .skip => { t with skipped := t.skipped + 1 }
  | .blacklist => { t with blacklisted := t.blacklisted + 1 }
  | .kill => { t with killed := t.killed + 1 }
  | .running => t
  | .pending => t
  | .unknown => t

/-- The counts after one more test. -/
def add (t : SuiteTotals) (status : Status) (isLong : Bool) : SuiteTotals :=
  let t := t.countStatus status
  { t with total := t.total + 1, long := if isLong then t.long + 1 else t.long }

end SuiteTotals

/-- The style classes of the cells of a line. -/
structure SuiteRowClasses where
  row : String := ""
  passing : String := ""
  failing : String := ""
  skipped : String := ""
  long : String := ""
  total : String := ""
  deriving DecidableEq

/-- Every cell in the row's class. -/
def SuiteRowClasses.filled (h : Highlight) : SuiteRowClasses :=
  ⟨h.rowClass, h.rowClass, h.rowClass, h.rowClass, h.rowClass, h.rowClass⟩

/-- One line for the tests of a suite. -/
structure SuiteSummary where
  name : String
  suiteId : UInt64 := 0
  status : Status := .unknown
  elapsed : Span := .zero
  totals : SuiteTotals := {}
  deriving DecidableEq

namespace SuiteSummary

/-- The line of a suite without tests. -/
def empty (name : String) : SuiteSummary :=
  { name }

/-- A line after one more test. -/
def add (h : Highlighter) (s : SuiteSummary) (t : TestRecord) : SuiteSummary :=
  { name := s.name
    suiteId := if s.suiteId = 0 then t.suiteId else s.suiteId
    status := s.status.update t.status
    elapsed := s.elapsed.add (t.elapsed?.getD .zero)
    totals := s.totals.add t.status (h.isLongRunning t) }

/-- The name of the tests that belong to no suite. -/
def ungrouped : String := "Ungrouped"

/-- The name of the line a test is counted in. -/
def nameOf (t : TestRecord) : String :=
  match t.groupName.map trimmed with
  | some name => if name ≠ "" then name else fallback
  | none => fallback
where
  /-- The name for a test without a group name. -/
  fallback : String :=
    if t.hasSuite then "Suite " ++ Numeral.text t.suiteId.toNat else ungrouped

/-- The line of a bucket of tests. -/
def ofBucket (h : Highlighter) (b : Bucket String TestRecord) : SuiteSummary :=
  b.members.foldl (add h) (empty b.key)

/-- The lines of some records, in the order of their first tests. -/
def ofTests (h : Highlighter) (tests : List TestRecord) : List SuiteSummary :=
  (Bucket.ofList nameOf tests).map (ofBucket h)

/-- The style classes of a line's cells. An incomplete line is marked as such whatever the reader
    chose. -/
def classes (s : SuiteSummary) (criteria : HighlightCriteria) : SuiteRowClasses :=
  let t := s.totals
  if t.isIncomplete then
    { SuiteRowClasses.filled .warning with total := Highlight.warning.columnClass }
  else
    match criteria with
    | .failing =>
      if 0 < t.failing then
        { SuiteRowClasses.filled .error with
          failing := Highlight.error.columnClass
          long := if 0 < t.long then Highlight.timing.columnClass else Highlight.error.rowClass }
      else if 0 < t.long then
        { SuiteRowClasses.filled .timing with long := Highlight.timing.columnClass }
      else {}
    | .passing =>
      if 0 < t.passing then
        { SuiteRowClasses.filled .warning with passing := Highlight.warning.columnClass }
      else {}
    | .skipped =>
      if 0 < t.skipped then
        { SuiteRowClasses.filled .warning with skipped := Highlight.warning.columnClass }
      else {}
    | .none => {}

end SuiteSummary

end RunReport
