import RunReport.Highlight
import RunReport.Manifest.Basic
import RunReport.Manifest.Setting
import RunReport.Pattern.Parser
import RunReport.Text.Quoted
import RunReport.Time.SpanText
import RunReport.Unicode.Lowercase
import RunReport.Url.Parser

/-!
# Reading Settings as a Manifest

The settings of a file as a manifest, and what can be wrong with them.

Texts may also be written as numbers or truth values, and truth values as numbers or one of eight
words. A fault in the type of such a setting is reported with the way to the setting and with the
file, if the setting stands in the file as it is. Every setting that is there is read before one
that is missing is noticed.

## Main definitions

* `ManifestFault`: What can be wrong with a manifest, with what is said of it.
* `Manifest.ofSettings`: The manifest that the settings of a file say.
-/

namespace RunReport

/-- What can be wrong with a manifest. -/
inductive ManifestFault
  | notFound (path : String)
  | unknownFormat (path : String)
  | notText
  | malformed
  | wrongType (found expected key : String) (file : Option String)
  | unexpected (found expected : String)
  | notOneCharacter (text : String)
  | tooShort (length : Nat)
  | missingField (name : String)
  | badUrl (text : String) (fault : UrlFault)
  | badSpan (fault : SpanFault)
  | unknownReport
  | unknownOrder (word : String)
  | badPattern (complaint : String)
  | other (message : String)
  deriving DecidableEq

namespace ManifestFault

/-- What is said of a fault, as far as it does not depend on a format. -/
def message : ManifestFault → String
  | notFound path => "configuration file \"" ++ path ++ "\" not found"
  | unknownFormat path =>
    "configuration file \"" ++ path ++ "\" is not of a registered file format"
  | notText => "stream did not contain valid UTF-8"
  | malformed => ""
  | wrongType found expected key file =>
    "invalid type: " ++ found ++ ", expected " ++ expected ++ " for key \x60" ++ key ++ "\x60" ++
      match file with
      | some f => " in " ++ f
      | none => ""
  | unexpected found expected => "invalid type: " ++ found ++ ", expected " ++ expected
  | notOneCharacter text =>
    "invalid value: string " ++ Quoted.quote text ++ ", expected a character"
  | tooShort length =>
    "invalid length " ++ Numeral.text length ++ ", expected struct Sources with 5 elements"
  | missingField name => "missing field \x60" ++ name ++ "\x60"
  | badUrl text fault => text ++ ": " ++ fault.message
  | badSpan fault => fault.message
  | unknownReport => "valid values: " ++ ", ".intercalate (ReportKind.all.map ReportKind.label)
  | unknownOrder word => GroupOrder.unknownMessage word
  | badPattern complaint => complaint
  | other message => message

/-- A way to a setting with one more step in front. -/
def keyUnder (segment key : String) : String :=
  let point := match key.toList with
    | [] => false
    | c :: _ => c ≠ '['
  segment ++ (if point then "." else "") ++ key

/-- A fault seen from the table or the list around its setting. -/
def under (segment : String) : ManifestFault → ManifestFault
  | wrongType found expected key file => wrongType found expected (keyUnder segment key) file
  | f => f

end ManifestFault

namespace Setting

/-- A number with a point in it. -/
def realText (x : Binary64) : String :=
  let s := x.text
  match x with
  | .finite _ _ _ => if s.toList.contains '.' then s else s ++ ".0"
  | _ => s

/-- What a setting is, in a message. -/
def described : Setting → String
  | nothing _ => "unit value"
  | flag b => "boolean \x60" ++ (if b then "true" else "false") ++ "\x60"
  | int i => "integer \x60" ++ Numeral.signedText i ++ "\x60"
  | real x => "floating point \x60" ++ realText x ++ "\x60"
  | text s => "string " ++ Quoted.quote s
  | list _ _ => "sequence"
  | table _ _ => "map"

/-- Whether a setting stands in the file as it is. -/
def isInFile : Setting → Bool
  | nothing b => b
  | list b _ => b
  | table b _ => b
  | _ => true

/-- Reads a setting as a value; the name of the file is for messages. -/
abbrev Decoder (α : Type) := String → Setting → Except ManifestFault α

/-- The fault of a setting of another type. -/
def wrongType (expected file : String) (s : Setting) : ManifestFault :=
  .wrongType s.described expected "" (if s.isInFile then some file else none)

/-- A text, or a value that is written as one. -/
def readText : Decoder String
  | _, text s => .ok s
  | _, flag b => .ok (if b then "true" else "false")
  | _, int i => .ok (Numeral.signedText i)
  | _, real x => .ok x.text
  | file, s => .error (wrongType "a string" file s)

/-- The truth value that a word stands for. -/
def flagOfWord? (word : String) : Option Bool :=
  if ["1", "true", "on", "yes"].contains word then some true
  else if ["0", "false", "off", "no"].contains word then some false
  else none

/-- A truth value, or a value that stands for one. -/
def readFlag : Decoder Bool
  | _, flag b => .ok b
  | _, int i => .ok (i ≠ 0)
  | _, real x => .ok (!x.isZero)
  | file, text s =>
    let word := Unicode.Lowercase.text s
    match flagOfWord? word with
    | some b => .ok b
    | none => .error (wrongType "a boolean" file (text word))
  | file, s => .error (wrongType "a boolean" file s)

/-- A single character. -/
def readCharacter : Decoder Char
  | _, text s =>
    match s.toList with
    | [c] => .ok c
    | _ => .error (.notOneCharacter s)
  | _, s => .error (.unexpected s.described "a character")

/-- A value that may be left open. -/
def readOptional {α : Type} (read : Decoder α) : Decoder (Option α)
  | _, nothing _ => .ok none
  | file, s => (read file s).map some

/-- A text that is checked. -/
def readChecked {α : Type} (check : String → Except ManifestFault α) : Decoder α :=
  fun file s => do check (← readText file s)

/-- A URL. -/
def readUrl [HostLibrary] : Decoder Url :=
  readChecked fun text =>
    match Url.parse text with
    | .ok u => .ok u
    | .error f => .error (.badUrl text f)

/-- A span of time. -/
def readSpan : Decoder Span :=
  readChecked fun text => (SpanText.read text).mapError .badSpan

/-- The name of a report. -/
def readReport : Decoder ReportKind :=
  readChecked fun text =>
    match ReportKind.ofWord? text with
    | some k => .ok k
    | none => .error .unknownReport

/-- The name of an order of groups. -/
def readOrder : Decoder GroupOrder :=
  readChecked fun text => (GroupOrder.read text).mapError .unknownOrder

/-- The text of a pattern. -/
def readPattern [PatternLibrary] : Decoder String :=
  readChecked fun text =>
    if (Pattern.parse? text).isSome then .ok text
    else .error (.badPattern (PatternLibrary.complaint text))

/-- The setting of a name in a table, if it is there. -/
def readMember {α : Type} (read : Decoder α) (file name : String)
    (members : List (String × Setting)) : Except ManifestFault (Option α) :=
  match member? name members with
  | none => .ok none
  | some s => ((read file s).map some).mapError (·.under name)

/-- The item of a list at an index, if it is there. -/
def readItem {α : Type} (read : Decoder α) (file : String) (index : Nat) (items : List Setting) :
    Except ManifestFault (Option α) :=
  match items[index]? with
  | none => .ok none
  | some s =>
    ((read file s).map some).mapError (·.under ("[" ++ Numeral.text index ++ "]"))

/-- The file of one source. -/
def readPath : Decoder (Option String) :=
  readOptional readText

/-- A source in a list, which must be there. -/
def readSource (file : String) (index : Nat) (items : List Setting) :
    Except ManifestFault (Option String) := do
  match ← readItem readPath file index items with
  | some path => .ok path
  | none => .error (.tooShort index)

/-- The sources, as a table or a list. -/
def readSources : Decoder Sources
  | file, table _ ms => do
    let path (name : String) : Except ManifestFault (Option String) :=
      (readMember readPath file name ms).map (·.getD none)
    .ok
      { tests := ← path "tests"
        releases := ← path "releases"
        test := ← path "test"
        lastPass := ← path "last_pass"
        lastFail := ← path "last_fail" }
  | file, list _ xs => do
    .ok
      { tests := ← readSource file 0 xs
        releases := ← readSource file 1 xs
        test := ← readSource file 2 xs
        lastPass := ← readSource file 3 xs
        lastFail := ← readSource file 4 xs }
  | _, s => .error (.unexpected s.described "struct Sources")

/-- The flags of a form, as a table or a list; those that are not given are set. -/
def readCapabilities : Decoder FormCapabilities
  | file, table _ ms => do
    let flagOf (name : String) : Except ManifestFault Bool :=
      (readMember readFlag file name ms).map (·.getD true)
    .ok
      { hasDates := ← flagOf "has_date_fields"
        hasStatus := ← flagOf "has_status_field"
        hasAdmin := ← flagOf "admin_renderable" }
  | file, list _ xs => do
    let flagAt (index : Nat) : Except ManifestFault Bool :=
      (readItem readFlag file index xs).map (·.getD true)
    .ok { hasDates := ← flagAt 0, hasStatus := ← flagAt 1, hasAdmin := ← flagAt 2 }
  | _, s => .error (.unexpected s.described "struct FormCapabilities")

/-- Texts by name. -/
def readAttributes : Decoder (List (String × String))
  | file, table _ ms =>
    ms.mapM fun (name, s) => ((readText file s).map (name, ·)).mapError (·.under name)
  | _, s => .error (.unexpected s.described "a map")

end Setting

namespace Manifest

open Setting

/-- A setting that must be there. -/
def required {α : Type} (name : String) : Option α → Except ManifestFault α
  | some x => .ok x
  | none => .error (.missingField name)

/-- The manifest that the settings of a file say. -/
def ofSettings [HostLibrary] [PatternLibrary] (file : String)
    (settings : List (String × Setting)) :
    Except ManifestFault Manifest := do
  let read {α : Type} (decoder : Decoder α) (name : String) : Except ManifestFault (Option α) :=
    readMember decoder file name settings
  let name? ← read readText "name"
  let report? ← read readReport "report"
  let formUrl? ← read readUrl "form_url"
  let summaryUrl? ← read (readOptional readUrl) "summary_url"
  let adminUrl? ← read (readOptional readUrl) "admin_url"
  let sources? ← read readSources "sources"
  let longRunning? ← read readSpan "long_running"
  let groupOrder? ← read readOrder "group_order"
  let filter? ← read (readOptional readPattern) "filter"
  let attributes? ← read readAttributes "attributes"
  let capabilities? ← read readCapabilities "capabilities"
  let inputMode? ← read readFlag "input_mode"
  let adminMode? ← read readFlag "admin_mode"
  let separator? ← read readCharacter "separator"
  let name ← required "name" name?
  let report ← required "report" report?
  let formUrl ← required "form_url" formUrl?
  .ok
    { name, report, formUrl
      summaryUrl := summaryUrl?.getD none
      adminUrl := adminUrl?.getD none
      sources := sources?.getD {}
      longRunning := longRunning?.getD (Span.ofMillis Highlighter.defaultMillis)
      groupOrder := groupOrder?.getD .name
      filter := filter?.getD none
      attributes := attributes?.getD []
      capabilities := capabilities?.getD {}
      inputMode := inputMode?.getD false
      adminMode := adminMode?.getD false
      format := ⟨separator?.getD '-'⟩ }

end Manifest

end RunReport
