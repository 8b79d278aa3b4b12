import RunReport.Failure
import RunReport.Store.CsvRecords
import RunReport.Store.JsonRecords
import RunReport.Store.Workspace

/-!
# Sources of Records

Files with the records of a report.

The format of a file is known by its extension, in any case of its letters. A JSON file holds a
list of records or a single one. Only test records can be written in a table.

## Main definitions

* `RecordFormat`: The two formats.
* `Source.tests`, `Source.test`, `Source.acceptance`, `Source.releases`: The records of a file.
-/

namespace RunReport

/-- The formats of files with records. -/
inductive RecordFormat
  | json
  | csv
  deriving DecidableEq

namespace RecordFormat

/-- The format of a file. -/
def ofPath (path : String) : Except Failure RecordFormat :=
  let extension := (Path.extension? path).map fun e => String.ofList (e.toList.map Char.toLower)
  match extension with
  | some "json" => .ok json
  | some "csv" => .ok csv
  | _ => .error (.unsupportedSource path)

end RecordFormat

namespace Source

/-- The bytes of a JSON file. A directory is found to be none only when it is read. -/
def jsonBytes (w : Workspace) (path : String) : Except Failure (List UInt8) :=
  match w.read path with
  | .ok bytes => .ok bytes
  | .error .isADirectory => .error (.jsonFile .isADirectory)
  | .error f => .error (.file f)

/-- The records of a JSON file. What follows them is looked at last. -/
def ofJson {α : Type} (read : Json.Origin → Json.Decoder α) (w : Workspace) (path : String) :
    Except Failure (List α) := do
  let (document, after) := Json.Doc.read (← jsonBytes w path)
  let value ← (document.strict Json.Doc.fullRoom).mapError fun f => .json (.text f)
  let records ← (Json.oneOrMany read value).mapError .json
  (Json.Doc.closed after).mapError fun f => .json (.text f)
  return records

/-- The test records of a table. -/
def ofCsv (w : Workspace) (path : String) : Except Failure (List TestRecord) :=
  match w.read path with
  | .error f => .error (.tableFile f)
  | .ok bytes => (Csv.records TestRecord.fieldNames TestRecord.ofCells? bytes).mapError .table

/-- All test records of a file. -/
def tests (w : Workspace) (path : String) : Except Failure (List TestRecord) := do
  match ← RecordFormat.ofPath path with
  | .json => ofJson TestRecord.decoder w path
  | .csv => ofCsv w path

/-- The first test record of a file. -/
def test (w : Workspace) (path : String) : Except Failure (Option TestRecord) :=
  (tests w path).map List.head?

/-- The records of a file that must be JSON. -/
def jsonOnly {α : Type} (read : Json.Origin → Json.Decoder α) (w : Workspace) (path : String) :
    Except Failure (List α) := do
  match ← RecordFormat.ofPath path with
  | .json => ofJson read w path
  | .csv => .error (.unsupportedSource path)

/-- The first acceptance record of a file. -/
def acceptance (w : Workspace) (path : String) : Except Failure (Option AcceptanceRecord) :=
  (jsonOnly AcceptanceRecord.decoder w path).map List.head?

/-- All releases of a file. -/
def releases (w : Workspace) (path : String) : Except Failure (List Release) :=
  jsonOnly Release.decoder w path

end Source

end RunReport
