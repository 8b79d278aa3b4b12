import RunReport.Csv.Row
import RunReport.Number.RealText

/-!
# Records of a Table

The rows of a table as records with named fields.

The first row names the fields. Every other row has as many cells as it, and all cells are text.
Names that are not asked for are passed over. If the first row is no text, the cells belong to the
fields in their order.

## Main definitions

* `Csv.Fault`: What can be wrong with a row.
* `Csv.Cells`: The cells of a record by name.
* `Csv.records`: All records of a table.
-/

namespace RunReport

namespace Csv

/-- What is wrong with a row. -/
inductive Fault
  | notText (position : Position) (cell : Nat)
  | unequalLengths (position : Position) (expected found : Nat)
  | noRecord (position : Position)
  deriving DecidableEq

/-- The cells of a record with the names of their fields. -/
abbrev Cells := List (String × String)

namespace Cells

/-- The cell of a field. -/
def cell? (cells : Cells) (name : String) : Option String :=
  (cells.find? (·.1 = name)).map (·.2)

/-- Whether no field of a list of names has two cells. -/
def isDistinct (names : List String) (cells : Cells) : Bool :=
  names.all fun n => (cells.filter (·.1 = n)).length ≤ 1

/-- A number of 64 bits in hexadecimal digits. -/
def hexadecimal? (cs : List Char) : Option UInt64 :=
  ((Numeral.valueIn? 16 (Numeral.withoutPlus cs)).filter (· < Word.count)).map UInt64.ofNat

/-- A number of 64 bits, in decimal digits or after `0x` in hexadecimal ones. -/
def word? (cell : String) : Option UInt64 :=
  match cell.toList with
  | '0' :: 'x' :: cs => hexadecimal? cs
  | cs => Numeral.word? cs

/-- The value of a field that may be empty. -/
def optional? {α : Type} (read : String → Option α) (cell : String) : Option (Option α) :=
  if cell = "" then some none else (read cell).map some

/-- The value of a field, if it has a cell. -/
def required {α : Type} (cells : Cells) (name : String) (read : String → Option α) : Option α :=
  (cells.cell? name).bind read

/-- The value of a field, or another value if it has no cell. -/
def withDefault {α : Type} (cells : Cells) (name : String) (read : String → Option α)
    (default : α) : Option α :=
  match cells.cell? name with
  | some cell => read cell
  | none => some default

end Cells

/-- The cells of a row as texts, or the number of the first one that is none. -/
def texts (number : Nat) : List (List UInt8) → Except Nat (List String)
  | [] => .ok []
  | bytes :: rest =>
    match Utf8.decode? bytes with
    | none => .error number
    | some cs => (texts (number + 1) rest).map (String.ofList cs :: ·)

/-- The record of a row of a table whose first row has so many cells. -/
def record {α : Type} (names : List String) (width : Nat) (build : Cells → Option α) (r : Row) :
    Except Fault α :=
  if r.cells.length ≠ width then .error (.unequalLengths r.position width r.cells.length)
  else
    match texts 0 r.cells with
    | .error cell => .error (.notText r.position cell)
    | .ok cells =>
      match build (names.zip cells) with
      | some x => .ok x
      | none => .error (.noRecord r.position)

/-- The records of a table, unless one of them has a fault. The fields are named here for a table
    whose first row is no text. -/
def records {α : Type} (fields : List String) (build : Cells → Option α) (bytes : List UInt8) :
    Except Fault (List α) :=
  match rows bytes with
  | [] => .ok []
  | header :: rest =>
    let names := match texts 0 header.cells with
      | .ok names => names
      | .error _ => fields
    rest.mapM (record names header.cells.length build)

end Csv

end RunReport
