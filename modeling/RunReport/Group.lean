import RunReport.Bucket
import RunReport.Test

/-!
# Test Groups

The executions of one test, listed together.

A group holds the records of one display name in the order of the file. Its status is the one with
the highest priority among its members. Groups are listed by name, or by priority and then by name.

## Main definitions

* `TestGroup`: The records of one display name.
* `TestGroup.ofTests`: The groups of a list of records.
* `TestGroup.status`: The status a group stands for.
* `GroupOrder`, `GroupOrder.compare`: The two orders of groups.
* `TestGroup.sorted`: Groups in a given order; equal ones keep their places.
-/

namespace RunReport

/-- The executions of one test. -/
structure TestGroup where
  name : String
  tests : List TestRecord
  deriving DecidableEq

namespace TestGroup

/-- A group without members. -/
def empty (name : String) : TestGroup :=
  ⟨name, []⟩

/-- A group with one more member at the end. -/
def add (g : TestGroup) (t : TestRecord) : TestGroup :=
  { g with tests := g.tests ++ [t] }

/-- The group of a bucket of records. -/
def ofBucket (b : Bucket String TestRecord) : TestGroup :=
  ⟨b.key, b.members⟩

/-- The groups of some records by display name, in the order of their first members. -/
def ofTests (tests : List TestRecord) : List TestGroup :=
  (Bucket.ofList TestRecord.displayName tests).map ofBucket

/-- The more significant of two statuses; the first if both have the same priority. -/
def moreSignificant (a b : Status) : Status :=
  if b.priority < a.priority then b else a

/-- The most significant status among the members. -/
def status (g : TestGroup) : Status :=
  match g.tests with
  | [] => .unknown
  | t :: ts => ts.foldl (fun s x => moreSignificant s x.status) t.status

/-- Groups in the order of a comparison; equal ones keep their places. -/
def sorted (cmp : TestGroup → TestGroup → Ordering) (gs : List TestGroup) : List TestGroup :=
  gs.mergeSort fun a b => (cmp a b).isLE

end TestGroup

/-- The orders in which groups can be listed. -/
inductive GroupOrder
  | name
  | priority
  deriving DecidableEq

namespace GroupOrder

instance : Inhabited GroupOrder := ⟨name⟩

/-- The order a text names, in any case of its ASCII letters, or the text in lower case. -/
def read (s : String) : Except String GroupOrder :=
  let word := String.ofList (s.toList.map Char.toLower)
  if word = "name" then .ok name
  else if word = "priority" then .ok priority
  else .error word

/-- What is said of a text that names no order. -/
def unknownMessage (word : String) : String :=
  "Unknown group order '" ++ word ++ "'"

/-- Compares two groups in an order. -/
def compare : GroupOrder → TestGroup → TestGroup → Ordering
  | name, a, b => Ord.compare a.name b.name
  | priority, a, b =>
    (Ord.compare a.status.priority b.status.priority).then (Ord.compare a.name b.name)

end GroupOrder

end RunReport
