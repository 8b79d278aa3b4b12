import RunReport.Csv.Record
import RunReport.Test
import RunReport.Time.Timestamp

/-!
# Test Records in Tables

How test records are written in a table.

A cell has no type of its own. That of a status is taken for a truth value, an integer, a number or
a text, whichever it looks like first, and only an integer of 32 bits and a text are statuses.

## Main definitions

* `Status.ofCell?`: The status that a cell stands for.
* `TestRecord.ofCells?`: The test record of a row.
-/

namespace RunReport

open Csv (Cells)

/-- The status that a cell stands for. -/
def Status.ofCell? (cell : String) : Option Status :=
  if cell = "true" ∨ cell = "false" then none
  else
    match Numeral.integer? 32 cell.toList with
    | some code => some (ofCode code)
    | none => if (Binary64.read? cell.toList).isSome then none else some (ofText cell)

namespace TestRecord

/-- The names of the fields of a test record. -/
def fieldNames : List String :=
  ["id", "display_name", "start_time", "end_time", "status", "suite_id", "group_name", "message"]

/-- The test record of a row. -/
def ofCells? (cells : Cells) : Option TestRecord := do
  if cells.isDistinct fieldNames then
    let instant := Cells.optional? fun s => Timestamp.read? s
    some
      { id := ← cells.required "id" Cells.word?
        displayName := ← cells.required "display_name" some
        start := ← cells.withDefault "start_time" instant none
        finish := ← cells.withDefault "end_time" instant none
        status := ← cells.withDefault "status" Status.ofCell? .unknown
        suiteId := ← cells.withDefault "suite_id" Cells.word? 0
        groupName := ← cells.withDefault "group_name" (Cells.optional? some) none
        message := ← cells.withDefault "message" some "" }
  else none

end TestRecord

end RunReport
