import RunReport.Group
import RunReport.Page.Field
import RunReport.Release
import RunReport.Time.Span
import RunReport.Url.Basic

/-!
# Manifests

Which report is to be made, from which files, and how.

## Main definitions

* `ReportKind`: The five reports.
* `Sources`: The files with the records of a report.
* `Manifest`: All that is said about a report.
-/

namespace RunReport

/-- The five reports. -/
inductive ReportKind
  | list
  | history
  | info
  | release
  | suites
  deriving DecidableEq

namespace ReportKind

/-- All reports. -/
def all : List ReportKind :=
  [list, history, info, release, suites]

/-- The name of a report. -/
def label : ReportKind → String
  | list => "List"
  | history => "History"
  | info => "Info"
  | release => "Release"
  | suites => "Suites"

/-- The report of a name, in any case of its ASCII letters. -/
def ofWord? (word : String) : Option ReportKind :=
  all.find? fun k => k.label.toList.map Char.toLower = word.toList.map Char.toLower

end ReportKind

/-- The files with the records of a report. -/
structure Sources where
  tests : Option String := none
  releases : Option String := none
  test : Option String := none
  lastPass : Option String := none
  lastFail : Option String := none
  deriving DecidableEq

/-- All that is said about a report. -/
structure Manifest where
  name : String
  report : ReportKind
  formUrl : Url
  summaryUrl : Option Url := none
  adminUrl : Option Url := none
  sources : Sources := {}
  longRunning : Span
  groupOrder : GroupOrder := .name
  filter : Option String := none
  attributes : List (String × String) := []
  capabilities : FormCapabilities := {}
  inputMode : Bool := false
  adminMode : Bool := false
  format : VersionFormat := {}

end RunReport
