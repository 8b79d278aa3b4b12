import RunReport.Csv.Record
import RunReport.Json.Decode
import RunReport.Manifest.Decode
import RunReport.Query
import RunReport.Store.Workspace
import RunReport.Text.Framed
import RunReport.Text.Markup

/-!
# Failures

Why a report could not be made.

## Main definitions

* `Failure`: The ways in which a report can fail.
* `Failure.message`: What is said of a failure.
* `Failure.diagnostic`, `Failure.page`: A failure as a diagnostic and as a page.
-/

namespace RunReport

/-- The ways in which a report can fail. -/
inductive Failure
  | manifest (fault : ManifestFault)
  | file (fault : FileFault)
  | system (message : String)
  | jsonFile (fault : FileFault)
  | json (fault : Json.DecodeError)
  | tableFile (fault : FileFault)
  | table (fault : Csv.Fault)
  | template (cause : String)
  | parameter (refused : RefusedValue)
  | unsupportedSource (path : String)
  | missingSource (name : String)

namespace Failure

/-- What a message starts with, if a fault of another kind is behind the failure. -/
def heading : Failure → String
  | manifest _ => "Invalid manifest: "
  | file _ => "I/O failure: "
  | system _ => "I/O failure: "
  | jsonFile _ => "Malformed JSON records: "
  | json _ => "Malformed JSON records: "
  | tableFile _ => "Malformed CSV records: "
  | table _ => "Malformed CSV records: "
  | template _ => "Cannot render template: "
  | parameter _ => ""
  | unsupportedSource _ => ""
  | missingSource _ => ""

/-- What is said of the fault behind a failure, as far as it is known. -/
def source? : Failure → Option String
  | manifest f => some f.message
  | file f => some f.message
  | system message => some message
  | jsonFile f => some f.message
  | json (.shape m) => m.message?
  | tableFile f => some f.message
  | template cause => some cause
  | _ => none

/-- What is said of a failure. -/
def message : Failure → String
  | parameter r => r.message
  | unsupportedSource path => "Unsupported record source '" ++ path ++ "'"
  | missingSource name => "Data source '" ++ name ++ "' is not configured"
  | f => f.heading ++ f.source?.getD ""

/-- A failure as a diagnostic shows it. -/
def diagnostic (f : Failure) : String :=
  Text.framed "Error" f.message

/-- The page that shows a failure in place of a report. -/
def page (f : Failure) : String :=
  Markup.preformatted f.message

end Failure

end RunReport
