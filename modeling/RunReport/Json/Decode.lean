import RunReport.Json.Doc
import RunReport.Time.Timestamp

/-!
# Decoding JSON

Reading a JSON document as a value of a given kind, and the fault that is reported if it is none.

A record may be an object with named fields or an array of the fields in their order. In an object
unknown names are passed over, a repeated name is a fault before its value is looked at, and a
missing field is noticed only after the object has been closed. In an array the last fields may be
left out if they are not required. `Fields` describes a record once: which fields it has, how each
is checked, and how the record is put together from them; `Fields.record` reads both forms.

## Main definitions

* `Json.Mismatch`: A document of the wrong shape.
* `Json.DecodeError`: A fault of the text, or of the shape.
* `Json.Decoder`: Reads a document as a value.
* `Json.Fields`: The fields of a record.
* `Json.Fields.record`: A record as an object or an array.
* `Json.oneOrMany`: A file with one record or a list of records.
-/

namespace RunReport

namespace Json

/-- How a document can have the wrong shape. -/
inductive Mismatch
  | missingField (name : String)
  | duplicateField (name : String)
  | noVariant (name : String)
  | invalidType
  | invalidValue
  | invalidLength
  | other
  deriving DecidableEq

namespace Mismatch

/-- What is said of a mismatch, as far as it is the same for every document. -/
def message? : Mismatch → Option String
  | missingField name => some ("missing field \x60" ++ name ++ "\x60")
  | duplicateField name => some ("duplicate field \x60" ++ name ++ "\x60")
  | noVariant name => some ("data did not match any variant of untagged enum " ++ name)
  | invalidType => some "invalid type"
  | invalidValue => some "invalid value"
  | invalidLength => some "invalid length"
  | other => none

end Mismatch

/-- Why a document could not be read. -/
inductive DecodeError
  | text (fault : Fault)
  | shape (mismatch : Mismatch)
  deriving DecidableEq

/-- The outcome of reading a document. -/
abbrev Decoded (α : Type) := Except DecodeError α

/-- Reads a document as a value. -/
abbrev Decoder (α : Type) := Doc → Decoded α

/-- Where a document comes from: a text that is being read, or a value that was read before. -/
inductive Origin
  | text
  | value
  deriving DecidableEq

namespace Decoder

/-- The end of a list of parts. -/
def close : Option Fault → Decoded Unit
  | none => .ok ()
  | some f => .error (.text f)

/-- The fault of a document of another kind than the one asked for. Arrays and objects are not
    looked into. -/
def otherKind : Doc → DecodeError
  | .broken f => .text f
  | .number (.error f) _ => .text f
  | .string (.error f) _ => .text f
  | _ => .shape .invalidType

/-- A number of 64 bits. -/
def word : Decoder UInt64
  | .number (.ok (.natural n)) _ => .ok n.toUInt64
  | .number (.ok (.negative _)) _ => .error (.shape .invalidValue)
  | d => .error (otherKind d)

/-- A string. -/
def text : Decoder String
  | .string (.ok s) _ => .ok s
  | d => .error (otherKind d)

/-- A truth value. -/
def bool : Decoder Bool
  | .bool b => .ok b
  | d => .error (otherKind d)

/-- The lone value `null`. -/
def nothing : Decoder Unit
  | .null => .ok ()
  | d => .error (otherKind d)

/-- A value that may be `null`. -/
def nullable {α : Type} (read : Decoder α) : Decoder (Option α)
  | .null => .ok none
  | d => (read d).map some

/-- The items of an array. -/
def items {α : Type} (read : Decoder α) : List Doc → Decoded (List α)
  | [] => .ok []
  | d :: ds => do
    let x ← read d
    let xs ← items read ds
    .ok (x :: xs)

/-- An array of values. -/
def list {α : Type} (read : Decoder α) : Decoder (List α)
  | .array ds fault => do
    let xs ← items read ds
    close fault
    .ok xs
  | d => .error (otherKind d)

/-- A date and time. -/
def instant (d : Doc) : Decoded Instant := do
  match Timestamp.read? (← text d) with
  | some t => .ok t
  | none => .error (.shape .other)

/-- A whole document as a value, nested less deep than `room`. -/
def json (room : Nat) (d : Doc) : Decoded Json :=
  match d.strict room with
  | .ok v => .ok v
  | .error f => .error (.text f)

/-- One of several names: a string, or an object with the name and `null`. -/
def name {α : Type} (names : List (String × α)) (origin : Origin) : Decoder α
  | .string (.ok s) _ => find s
  | .object [(.ok s, d)] fault => do
    let x ← find s
    nothing d
    close fault
    .ok x
  | .object [] (some f) => .error (.text f)
  | .object ((.error f, _) :: _) _ => .error (.text f)
  | .object ((.ok s, d) :: _) _ =>
    match origin with
    | .text => do
      let _ ← find s
      nothing d
      .error (.text .malformed)
    | .value => .error (.shape .invalidValue)
  | .object [] none =>
    match origin with
    | .text => .error (.text .malformed)
    | .value => .error (.shape .invalidValue)
  | .number v fault =>
    match origin with
    | .text => .error (.text .malformed)
    | .value => .error (otherKind (.number v fault))
  | d =>
    match otherKind d, origin with
    | .shape _, .text => .error (.text .malformed)
    | e, _ => .error e
where
  /-- The value of a name. -/
  find (s : String) : Decoded α :=
    match names.find? (·.1 = s) with
    | some (_, x) => .ok x
    | none => .error (.shape .other)

end Decoder

/-- One field of a record: its name, whether it must be there, and how its value is checked. -/
structure Field where
  name : String
  required : Bool
  check : Doc → Decoded Unit

/-- The fields of a record in their order, and the record that is built from their documents. -/
structure Fields (α : Type) where
  fields : List Field
  build : (String → Option Doc) → Decoded α

namespace Fields

variable {α β : Type}

/-- No fields. -/
def pure (x : α) : Fields α :=
  ⟨[], fun _ => .ok x⟩

/-- The fields of a record, and one more. -/
def and (f : Fields (α → β)) (field : Field) (read : Option Doc → Decoded α) : Fields β :=
  ⟨f.fields ++ [field], fun docs => do
    let g ← f.build docs
    let x ← read (docs field.name)
    .ok (g x)⟩

/-- One more field, which must be there. -/
def required (f : Fields (α → β)) (name : String) (read : Decoder α) : Fields β :=
  f.and ⟨name, true, fun d => (read d).map fun _ => ()⟩ fun
    | some d => read d
    | none => .error (.shape (.missingField name))

/-- One more field, with a value that counts if it is not there. -/
def optional (f : Fields (α → β)) (name : String) (read : Decoder α) (default : α) : Fields β :=
  f.and ⟨name, false, fun d => (read d).map fun _ => ()⟩ fun
    | some d => read d
    | none => .ok default

/-- The document of a name among those that were found. -/
def lookup (found : List (String × Doc)) (name : String) : Option Doc :=
  (found.find? (·.1 = name)).map (·.2)

/-- Checks the members of an object in their order and keeps those that the record has. -/
def checkMembers (fields : List Field) (found : List (String × Doc)) :
    List (Except Fault String × Doc) → Decoded (List (String × Doc))
  | [] => .ok found
  | (.error f, _) :: _ => .error (.text f)
  | (.ok key, d) :: rest =>
    match fields.find? (·.name = key) with
    | none =>
      match d.passed with
      | some f => .error (.text f)
      | none => checkMembers fields found rest
    | some field =>
      if (lookup found key).isSome then .error (.shape (.duplicateField key))
      else do
        field.check d
        checkMembers fields (found ++ [(key, d)]) rest

/-- The fault of a record without a field that must be there. -/
def checkRequired (fields : List Field) (found : List (String × Doc)) : Decoded Unit :=
  match fields.find? fun f => f.required && (lookup found f.name).isNone with
  | some f => .error (.shape (.missingField f.name))
  | none => .ok ()

/-- A record from the members of an object. -/
def ofMembers (f : Fields α) (members : List (Except Fault String × Doc)) (fault : Option Fault) :
    Decoded α := do
  let found ← checkMembers f.fields [] members
  Decoder.close fault
  checkRequired f.fields found
  f.build (lookup found)

/-- Checks the items of an array, one for each field. -/
def checkItems (origin : Origin) (fault : Option Fault) (found : List (String × Doc)) :
    List Field → List Doc → Decoded (List (String × Doc))
  | fields, [] => do
    Decoder.close fault
    if fields.any (·.required) then .error (.shape .other) else .ok found
  | [], _ :: _ =>
    match origin with
    | .text => .error (.text .malformed)
    | .value => .error (.shape .invalidLength)
  | field :: fields, d :: ds => do
    field.check d
    checkItems origin fault (found ++ [(field.name, d)]) fields ds

/-- A record from the items of an array. -/
def ofItems (f : Fields α) (origin : Origin) (ds : List Doc) (fault : Option Fault) :
    Decoded α := do
  f.build (lookup (← checkItems origin fault [] f.fields ds))

/-- A record as an object or as an array. -/
def record (f : Fields α) (origin : Origin) : Decoder α
  | .object members fault => f.ofMembers members fault
  | .array ds fault => f.ofItems origin ds fault
  | d => .error (Decoder.otherKind d)

end Fields

/-- Decodes a whole text. -/
def decodeText {α : Type} (read : Origin → Decoder α) (bytes : List UInt8) : Decoded α := do
  let (d, after) := Doc.read bytes
  let x ← read .text d
  Decoder.close after
  .ok x

/-- Decodes a value that was read before. -/
def decodeValue {α : Type} (read : Origin → Decoder α) (v : Json) : Decoded α :=
  read .value (Doc.ofJson v)

/-- A value as a list of records, or else as one record. -/
def oneOrMany {α : Type} (read : Origin → Decoder α) (v : Json) : Decoded (List α) :=
  match Decoder.list (read .value) (Doc.ofJson v) with
  | .ok xs => .ok xs
  | .error _ =>
    match decodeValue read v with
    | .ok x => .ok [x]
    | .error _ => .error (.shape (.noVariant "OneOrMany"))

end Json

end RunReport
