import RunReport.Text.Utf8

/-!
# Rows of a Table

Comma-separated text, cut into rows of cells.

Every line is a row, and empty lines are passed over. A cell that starts with a quotation mark goes
on to the next one, commas and line ends included; two marks in a row stand for one. Anywhere else
a mark is a character like any other. Lines end with a line feed, a carriage return or both.

A row remembers where the one before it ended, which is how a fault is located: the number of the
row and the line. The line feed behind a carriage return is read with the row that follows it, so
that in a file with both the lines are counted one behind.

## Main definitions

* `Csv.Row`: The cells of a row, and where it was found.
* `Csv.Reader`: What is known in the middle of a text, and `Csv.Reader.step` for one byte more.
* `Csv.rows`: All rows of a text.
-/

namespace RunReport

namespace Csv

/-- Where a row was found: its number, and the line where the row before it ended. -/
structure Position where
  record : Nat
  line : Nat
  deriving DecidableEq

/-- A row of a table. -/
structure Row where
  position : Position
  cells : List (List UInt8)
  deriving DecidableEq

/-- What the next byte belongs to. -/
inductive Mode
  | rowStart
  | afterReturn
  | cellStart
  | bare
  | quoted
  | afterQuote
  deriving DecidableEq

/-- What is known in the middle of a text. The bytes of a cell and the cells of a row are kept in
    reverse. -/
structure Reader where
  mode : Mode := .rowStart
  cell : List UInt8 := []
  cells : List (List UInt8) := []
  position : Position := ⟨0, 1⟩
  line : Nat := 1

namespace Reader

/-- A comma. -/
def comma : UInt8 := 0x2C

/-- A quotation mark. -/
def quote : UInt8 := 0x22

/-- A carriage return. -/
def carriageReturn : UInt8 := 0x0D

/-- A line feed. -/
def lineFeed : UInt8 := 0x0A

/-- Whether a byte ends a line. -/
def isEnd (b : UInt8) : Bool :=
  b == carriageReturn || b == lineFeed

/-- One byte more for the cell. -/
def keep (r : Reader) (mode : Mode) (b : UInt8) : Reader :=
  { r with mode, cell := b :: r.cell }

/-- The cell is complete. -/
def endCell (r : Reader) : Reader :=
  { r with mode := .cellStart, cell := [], cells := r.cell.reverse :: r.cells }

/-- The row that is complete with the current cell. -/
def row (r : Reader) : Row :=
  ⟨r.position, (r.cell.reverse :: r.cells).reverse⟩

/-- The row is complete; reading goes on with the next. -/
def endRow (r : Reader) (mode : Mode) : Reader :=
  { mode, position := ⟨r.position.record + 1, r.line⟩, line := r.line }

/-- A byte outside of quotation marks: it may end the cell or the row. -/
def plain (r : Reader) (b : UInt8) : Reader × Option Row :=
  if b == comma then (r.endCell, none)
  else if b == carriageReturn then (r.endRow .afterReturn, some r.row)
  else if b == lineFeed then (r.endRow .rowStart, some r.row)
  else (r.keep .bare b, none)

/-- A byte at the start of a cell. -/
def opening (r : Reader) (b : UInt8) : Reader × Option Row :=
  if b == quote then ({ r with mode := .quoted }, none) else r.plain b

/-- A byte in a mode; the row that it completes, if any. -/
def take (r : Reader) (b : UInt8) : Reader × Option Row :=
  match r.mode with
  | .rowStart => if isEnd b then (r, none) else r.opening b
  | .afterReturn =>
    if isEnd b then ({ r with mode := .rowStart }, none) else r.opening b
  | .cellStart => r.opening b
  | .bare => r.plain b
  | .quoted =>
    if b == quote then ({ r with mode := .afterQuote }, none) else (r.keep .quoted b, none)
  | .afterQuote => if b == quote then (r.keep .quoted b, none) else r.plain b

/-- One byte more, which may also be the end of a line. -/
def step (r : Reader) (b : UInt8) : Reader × Option Row :=
  take { r with line := if b == lineFeed then r.line + 1 else r.line } b

/-- The row that the end of the text completes, if one was begun. -/
def last (r : Reader) : List Row :=
  match r.mode with
  | .rowStart | .afterReturn => []
  | _ => [r.row]

/-- The rows of the rest of a text. -/
def rows : Reader → List UInt8 → List Row
  | r, [] => r.last
  | r, b :: bs =>
    match r.step b with
    | (r, none) => rows r bs
    | (r, some found) => found :: rows r bs

end Reader

/-- Bytes without the mark for their order that they may start with. -/
def withoutOrderMark : List UInt8 → List UInt8
  | 0xEF :: 0xBB :: 0xBF :: bs => bs
  | bs => bs

/-- The rows of a text. -/
def rows (bytes : List UInt8) : List Row :=
  Reader.rows {} (withoutOrderMark bytes)

end Csv

end RunReport
