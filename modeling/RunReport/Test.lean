import RunReport.Status
import RunReport.Time.Instant

/-!
# Test Records

One execution of a test.

A record says when the execution started and ended, as far as it is known; the time it took is
known if both are and the end is not before the start. Records are listed by priority of their
status, then the longest first, then by id.

## Main definitions

* `TestRecord`: One execution of a test.
* `TestRecord.elapsed?`, `TestRecord.elapsedMillis`: The time it took.
* `TestRecord.priorityOrder`: The order in which records are listed.
* `AcceptanceRecord`: A record with the author, test cases and stories of an acceptance test.
-/

namespace RunReport

/-- One execution of a test. -/
structure TestRecord where
  id : UInt64
  displayName : String
  start : Option Instant := none
  finish : Option Instant := none
  status : Status := .unknown
  suiteId : UInt64 := 0
  groupName : Option String := none
  message : String := ""
  deriving DecidableEq

namespace TestRecord

/-- The time a test took, if it started and ended and did not end before it started. -/
def elapsed? (t : TestRecord) : Option Span :=
  match t.start, t.finish with
  | some start, some finish => Instant.elapsed? start finish
  | _, _ => none

/-- The whole milliseconds a test took, 0 if that is not known. -/
def elapsedMillis (t : TestRecord) : Nat :=
  (t.elapsed?.map Span.millis).getD 0

/-- Whether a test ran in a suite; suite 0 is none. -/
def hasSuite (t : TestRecord) : Bool :=
  0 < t.suiteId

/-- The order in which records are listed. -/
def priorityOrder (a b : TestRecord) : Ordering :=
  (compare a.status.priority b.status.priority).then <|
    (compare b.elapsedMillis a.elapsedMillis).then <| compare a.id b.id

/-- Records in the order in which they are listed; equal ones keep their order. -/
def sorted (tests : List TestRecord) : List TestRecord :=
  tests.mergeSort fun a b => (priorityOrder a b).isLE

/-- The first of the records that no other comes before. -/
def first? : List TestRecord → Option TestRecord
  | [] => none
  | t :: ts => some (ts.foldl (fun best x => if (priorityOrder x best).isLT then x else best) t)

end TestRecord

/-- A record with the author, test cases and stories of an acceptance test. -/
structure AcceptanceRecord where
  test : TestRecord
  author : String := ""
  testCases : List String := []
  stories : List String := []
  deriving DecidableEq

end RunReport
