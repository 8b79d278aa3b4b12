import RunReport.Page.Field
import RunReport.Release
import RunReport.Test

/-!
# Drafts of Records

Records that are put together field by field.

A draft has those fields that were set. It becomes a record once all fields that a record needs are
there; other fields have a value that counts if they were not set.

## Main definitions

* `MissingField`: A field that was not set.
* `TestRecord.Draft`, `Build.Draft`, `Release.Draft`, `FormField.Draft`: Drafts of records.
-/

namespace RunReport

/-- A field that a record needs and that was not set. -/
structure MissingField where
  name : String
  deriving DecidableEq

namespace MissingField

/-- What is said of a missing field. -/
def message (m : MissingField) : String :=
  "\x60" ++ m.name ++ "\x60 must be initialized"

/-- The value of a field that a record needs. -/
def require {α : Type} (name : String) : Option α → Except MissingField α
  | some x => .ok x
  | none => .error ⟨name⟩

end MissingField

open MissingField (require)

/-- A draft of a test record. -/
structure TestRecord.Draft where
  id : Option UInt64 := none
  displayName : Option String := none
  start : Option Instant := none
  finish : Option Instant := none
  status : Status := .unknown
  suiteId : UInt64 := 0
  groupName : Option String := none
  message : String := ""

/-- The test record of a draft. -/
def TestRecord.Draft.complete (d : Draft) : Except MissingField TestRecord := do
  let id ← require "id" d.id
  let displayName ← require "display_name" d.displayName
  .ok
    { id, displayName
      start := d.start
      finish := d.finish
      status := d.status
      suiteId := d.suiteId
      groupName := d.groupName
      message := d.message }

/-- A draft of a build. -/
structure Build.Draft where
  version : Option String := none
  changelist : Option String := none
  releaseId : String := ""

/-- The build of a draft. -/
def Build.Draft.complete (d : Draft) : Except MissingField Build := do
  let version ← require "build_version" d.version
  .ok { version, changelist := d.changelist, releaseId := d.releaseId }

/-- A draft of a release. -/
structure Release.Draft where
  id : Option String := none
  name : Option String := none
  text : String := ""
  status : ReleaseStatus := .active
  version : Option String := none
  builds : List Build := []

/-- The release of a draft. -/
def Release.Draft.complete (d : Draft) : Except MissingField Release := do
  let id ← require "id" d.id
  let name ← require "name" d.name
  let version ← require "build_version" d.version
  .ok { id, name, version, text := d.text, status := d.status, builds := d.builds }

/-- A draft of a field of a form. -/
structure FormField.Draft where
  name : Option String := none
  value : String := ""
  width : Nat := 0
  isDisabled : Bool := false
  isHidden : Bool := false

/-- The field of a draft. -/
def FormField.Draft.complete (d : Draft) : Except MissingField FormField := do
  let name ← require "name" d.name
  .ok
    { name
      value := d.value
      width := d.width
      isDisabled := d.isDisabled
      isHidden := d.isHidden }

end RunReport
