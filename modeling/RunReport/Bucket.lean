/-!
# Buckets by First Occurrence

Sorting elements into buckets by a key.

A report shows a group where its first member stood in the file, and the members of a group in the
order of the file. `Bucket.add` puts one element into the bucket of its key, or opens a bucket
behind the others; `Bucket.ofList` adds the elements of a list one after the other.

## Main definitions

* `Bucket`: A key and the elements that have it.
* `Bucket.add`: The buckets after one more element.
* `Bucket.ofList`: The buckets of a list.
-/

namespace RunReport

/-- A key and the elements that have it, in the order in which they came. -/
structure Bucket (κ α : Type) where
  key : κ
  members : List α
  deriving DecidableEq

namespace Bucket

variable {κ α : Type} [DecidableEq κ]

/-- The buckets after one more element. -/
def add (key : α → κ) : List (Bucket κ α) → α → List (Bucket κ α)
  | [], x => [⟨key x, [x]⟩]
  | b :: bs, x => if b.key = key x then ⟨b.key, b.members ++ [x]⟩ :: bs else b :: add key bs x

/-- The buckets of a list, in the order of their first members. -/
def ofList (key : α → κ) (xs : List α) : List (Bucket κ α) :=
  xs.foldl (add key) []

end Bucket

end RunReport
