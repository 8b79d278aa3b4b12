import RunReport.Text.Blank
import RunReport.Text.Numeral

/-!
# Test Statuses

What a run says about a test, and how later reports change it.

A record names its status by a label or by a code from 0 to 7; anything else is `unknown`, which is
also the status of a test that nobody reported on. A test may be reported on more than once.
`Status.update` keeps the more telling report: a settled result is never taken back by a transient
one, and the last of `error`, `kill` and `blacklist` is final.

## Main definitions

* `Status`: The nine statuses.
* `Status.label`, `Status.ofCode`, `Status.ofText`: Their written forms.
* `Status.priority`: How early a status is listed, 0 being the first.
* `Status.isFailure`: The statuses that count as failures.
* `Status.update`: A status after one more report.
-/

namespace RunReport

/-- What a run says about a test. -/
inductive Status
  | pass
  | fail
  | error
  | skip
  | kill
  | running
  | pending
  | blacklist
  | unknown
  deriving DecidableEq, Repr

namespace Status

instance : Inhabited Status := ⟨unknown⟩

/-- The label of a status. -/
def label : Status → String
  | pass => "PASS"
  | fail => "FAIL"
  | error => "ERROR"
  | skip => "SKIP"
  | kill => "KILL"
  | running => "RUNNING"
  | pending => "PENDING"
  | blacklist => "BLACKLIST"
  | unknown => "UNKNOWN"

/-- The status of a code. -/
def ofCode : Int → Status
  | 0 => pass
  | 1 => fail
  | 2 => error
  | 3 => skip
  | 4 => kill
  | 5 => running
  | 6 => pending
  | 7 => blacklist
  | _ => unknown

/-- The statuses that a label can name. -/
def labelled : List Status :=
  [pass, fail, error, skip, kill, running, pending, blacklist]

/-- The status a text names: a label in any case of its ASCII letters, or a code of 32 bits, with
    blanks around it. -/
def ofText (s : String) : Status :=
  let name := (Text.trim s.toList).map Char.toUpper
  match labelled.find? (·.label.toList = name) with
  | some status => status
  | none => ((Numeral.integer? 32 name).map ofCode).getD unknown

/-- The statuses in the order in which a page lists them. -/
def listed : List Status :=
  [running, error, fail, kill, skip, blacklist, pending, unknown, pass]

/-- The place of a status in that order. -/
def priority (s : Status) : Nat :=
  listed.idxOf s

/-- Whether a status counts as a failure. -/
def isFailure : Status → Bool
  | error | fail | kill => true
  | _ => false

/-- The status after one more report. -/
def update (current reported : Status) : Status :=
  match reported, current with
  | pending, unknown => pending
  | running, unknown | running, pending => running
  | blacklist, _ | kill, _ | error, _ => reported
  | skip, pass | skip, unknown | skip, pending | skip, running => skip
  | pass, unknown | pass, pending | pass, running => pass
  | fail, pass | fail, unknown | fail, skip | fail, pending | fail, running => fail
  | _, _ => current

end Status

end RunReport
