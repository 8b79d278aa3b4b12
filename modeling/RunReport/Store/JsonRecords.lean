import RunReport.Json.Decode
import RunReport.Page.Field
import RunReport.Release
import RunReport.Test

/-!
# Records in JSON

How test records, builds, releases, acceptance records and the flags of a form are written in JSON.

A status is a label or a code. It is read as a whole value before either form is tried, so a nested
value that is no status is a mismatch only if it is well formed. An acceptance record is an object
with three fields of its own; all other members are read as whole values, and then the test record
is read from those.

## Main definitions

* `TestRecord.decoder`, `Release.decoder`, `AcceptanceRecord.decoder`: The three kinds of records.
* `Status.decoder`: A status.
-/

namespace RunReport

open Json (Origin Doc Decoder Decoded Fields Fault)

/-- The status that a value stands for: a code of 32 bits or a label. -/
def Status.ofJson? : Json → Option Status
  | .string s => some (ofText s)
  | v => (v.int?.filter fun i => -2147483648 ≤ i && i < 2147483648).map ofCode

/-- A status inside of a record. -/
def Status.decoder (d : Doc) : Decoded Status := do
  match Status.ofJson? (← Decoder.json (Doc.fullRoom - 1) d) with
  | some status => .ok status
  | none => .error (.shape (.noVariant "Raw"))

namespace TestRecord

/-- The fields of a test record. -/
def fields : Fields TestRecord :=
  (Fields.pure mk).required "id" Decoder.word
    |>.required "display_name" Decoder.text
    |>.optional "start_time" (Decoder.nullable Decoder.instant) none
    |>.optional "end_time" (Decoder.nullable Decoder.instant) none
    |>.optional "status" Status.decoder .unknown
    |>.optional "suite_id" Decoder.word 0
    |>.optional "group_name" (Decoder.nullable Decoder.text) none
    |>.optional "message" Decoder.text ""

/-- A test record. -/
def decoder (origin : Origin) : Decoder TestRecord :=
  fields.record origin

end TestRecord

namespace Build

/-- The fields of a build. -/
def fields : Fields Build :=
  (Fields.pure mk).required "build_version" Decoder.text
    |>.optional "version_control_id" (Decoder.nullable Decoder.text) none
    |>.optional "release_id" Decoder.text ""

/-- A build. -/
def decoder (origin : Origin) : Decoder Build :=
  fields.record origin

end Build

/-- The names of the states of a release. -/
def ReleaseStatus.names : List (String × ReleaseStatus) :=
  [("active", .active), ("retired", .retired)]

namespace Release

/-- The fields of a release. -/
def fields (origin : Origin) : Fields Release :=
  (Fields.pure mk).required "id" Decoder.text
    |>.required "name" Decoder.text
    |>.optional "text" Decoder.text ""
    |>.optional "status" (Decoder.name ReleaseStatus.names origin) .active
    |>.required "build_version" Decoder.text
    |>.optional "builds" (Decoder.list (Build.decoder origin)) []

/-- A release with its builds. -/
def decoder (origin : Origin) : Decoder Release :=
  (fields origin).record origin

end Release

namespace AcceptanceRecord

/-- The fields that an acceptance record has besides those of its test. -/
def ownFields : Fields (TestRecord → AcceptanceRecord) :=
  (Fields.pure fun author cases stories test => mk test author cases stories)
    |>.optional "author" Decoder.text ""
    |>.optional "test_cases" (Decoder.list Decoder.text) []
    |>.optional "stories" (Decoder.list Decoder.text) []

/-- Checks the members in their order: the own fields are kept as they are, and all others as whole
    values. -/
def checkMembers (own : List (String × Doc)) (others : List (String × Json)) :
    List (Except Fault String × Doc) → Decoded (List (String × Doc) × List (String × Json))
  | [] => .ok (own, others)
  | (.error f, _) :: _ => .error (.text f)
  | (.ok key, d) :: rest =>
    match ownFields.fields.find? (·.name = key) with
    | none => do
      let v ← Decoder.json (Doc.fullRoom - 1) d
      checkMembers own (others ++ [(key, v)]) rest
    | some field =>
      if (Fields.lookup own key).isSome then .error (.shape (.duplicateField key))
      else do
        field.check d
        checkMembers (own ++ [(key, d)]) others rest

/-- An acceptance record. -/
def decoder (_ : Origin) : Decoder AcceptanceRecord
  | .object members fault => do
    let (own, others) ← checkMembers [] [] members
    Decoder.close fault
    let make ← ownFields.build (Fields.lookup own)
    let test ← TestRecord.decoder .value (Doc.ofJson (.object others))
    .ok (make test)
  | d => .error (Decoder.otherKind d)

end AcceptanceRecord

namespace FormCapabilities

/-- The flags of a form. -/
def fields : Fields FormCapabilities :=
  (Fields.pure mk).optional "has_date_fields" Decoder.bool true
    |>.optional "has_status_field" Decoder.bool true
    |>.optional "admin_renderable" Decoder.bool true

/-- The flags of a form; those that are not given are set. -/
def decoder (origin : Origin) : Decoder FormCapabilities :=
  fields.record origin

end FormCapabilities

end RunReport
