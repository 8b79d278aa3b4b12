import RunReport.Test

/-!
# Highlights

Which cells of a page stand out, and for which tests.

A failed test is an error, a skipped one a warning, and one that took longer than a threshold is
marked for its time. The reader of a page chooses which of these are shown.

## Main definitions

* `Highlight`: The three kinds, with their style classes.
* `HighlightCriteria`: The reader's choice.
* `Highlighter`: A threshold and a choice.
* `Highlighter.classify`: What is highlighted for one test.
-/

namespace RunReport

/-- A reason for a cell to stand out. -/
inductive Highlight
  | error
  | warning
  | timing
  deriving DecidableEq

namespace Highlight

/-- The style class of a whole row. -/
def rowClass : Highlight → String
  | error => "errorRow"
  | warning => "warningRow"
  | timing => "timingRow"

/-- The style class of a single cell. -/
def columnClass : Highlight → String
  | error => "errorColumn"
  | warning => "warningColumn"
  | timing => "timingColumn"

end Highlight

/-- What the reader of a page wants to see highlighted. -/
inductive HighlightCriteria
  | none
  | failing
  | passing
  | skipped
  deriving DecidableEq

namespace HighlightCriteria

instance : Inhabited HighlightCriteria := ⟨failing⟩

/-- The choice that a code stands for; an unknown code stands for failing tests. -/
def ofCode : Int → HighlightCriteria
  | 0 => none
  | 2 => passing
  | 3 => skipped
  | _ => failing

/-- Whether a choice shows a highlight of a single test. -/
def allows : HighlightCriteria → Highlight → Bool
  | none, _ => false
  | passing, _ => false
  | failing, _ => true
  | skipped, h => h == .warning

end HighlightCriteria

/-- What is highlighted for one test. -/
structure Classification where
  status : Option Highlight
  duration : Option Highlight
  deriving DecidableEq

/-- A threshold for long running tests and the reader's choice. -/
structure Highlighter where
  longRunning : Span
  criteria : HighlightCriteria := .failing

namespace Highlighter

/-- Five minutes, the threshold where none is given. -/
def defaultMillis : UInt64 := 300000

instance : Inhabited Highlighter := ⟨{ longRunning := Span.ofMillis defaultMillis }⟩

/-- Whether a test took more whole milliseconds than the threshold has. -/
def isLongRunning (h : Highlighter) (t : TestRecord) : Bool :=
  h.longRunning.millis < t.elapsedMillis

/-- The highlight of a status by itself. -/
def ofStatus (s : Status) : Option Highlight :=
  if s.isFailure then some .error
  else if s = .skip then some .warning
  else none

/-- What is highlighted for a test. -/
def classify (h : Highlighter) (t : TestRecord) : Classification :=
  { status := (ofStatus t.status).filter h.criteria.allows
    duration := (if h.isLongRunning t then some Highlight.timing else none).filter
      h.criteria.allows }

end Highlighter

end RunReport
