import RunReport.Csv.Record
import RunReport.Proofs.Utf8

/-!
# Tables Read Back

What reading a table makes of its cells.

A table is told by the cells that its rows have, whatever marks and line ends its bytes use for
them: `Csv.Writes` says so, and `records_of_writes` that a reader of records sees the cells under
the names of the first row and nothing else. Every table has such bytes. `Csv.written` puts
quotation marks around all cells and doubles those inside. The reader is then in quotation marks
all through a cell, so no byte of it can end the cell, the row or the table.

The reader also counts lines, and the marks around cells do not keep it from counting those inside.
The lemmas about it leave that number open.

## Main definitions

* `Csv.Writes`: Bytes whose rows have the cells of a table.
* `Csv.written`: A table with quotation marks around all cells.

## Theorems

* `Csv.texts_encode`: The cells of a row read back as texts.
* `Csv.records_of_writes`: The records of a table are made from its cells.
* `Reader.rows_quoted`, `Reader.rows_quotedCell`, `Reader.rows_quotedLine`: Reading to the end of a
  cell and of a row.
* `Csv.rows_written`, `Csv.writes_written`: A table reads back from what is written for it.
-/

namespace RunReport

namespace Csv

/-- The bytes of the cells of a row. -/
def encoded (row : List String) : List (List UInt8) :=
  row.map fun cell => Utf8.encode cell.toList

/-- Bytes are a table if their rows have its cells: first the names of its fields, then as many
    cells in each row. -/
structure Writes (bytes : List UInt8) (names : List String) (table : List (List String)) :
    Prop where
  cells : (rows bytes).map Row.cells = (names :: table).map encoded
  widths : ∀ row ∈ table, row.length = names.length

/-! ### Records -/

/-- The cells of a row read back as texts. -/
theorem texts_encoded (number : Nat) (row : List String) :
    texts number (encoded row) = .ok row := by
  induction row generalizing number with
  | nil => rfl
  | cons cell row ih =>
      rw [encoded, List.map_cons, texts, Utf8.decode?_encode]
      change (texts (number + 1) (encoded row)).map _ = _
      rw [ih, String.ofList_toList]
      rfl

variable {α : Type}

/-- The record of a row is made from its cells. -/
theorem record_of_encoded (names row : List String) (build : Cells → Option α) (r : Row)
    (hcells : r.cells = encoded row) (hwidth : row.length = names.length) :
    (record names (encoded names).length build r).toOption = build (names.zip row) := by
  have hlength : ∀ row, (encoded row).length = row.length := fun row => List.length_map _
  rw [record, hcells, hlength, hlength, if_neg fun h => h hwidth, texts_encoded]
  cases h : build (names.zip row) with
  | none => simp only [h, Except.toOption]
  | some x => simp only [h, Except.toOption]

/-- Records that are read one after the other: there are all of them, or none. -/
theorem toOption_mapM {β ε : Type} (f : α → Except ε β) (xs : List α) :
    (xs.mapM f).toOption = xs.mapM fun x => (f x).toOption := by
  induction xs with
  | nil => rfl
  | cons x xs ih =>
      rw [List.mapM_cons, List.mapM_cons, ← ih]
      cases f x with
      | error e => rfl
      | ok y =>
          cases xs.mapM f with
          | error e => rfl
          | ok ys => rfl

/-- The records of a table are made from its cells, each under the name that the first row has for
    it. -/
theorem records_of_writes (fields names : List String) (build : Cells → Option α)
    (bytes : List UInt8) (table : List (List String)) (h : Writes bytes names table) :
    (records fields build bytes).toOption = table.mapM fun row => build (names.zip row) := by
  have hcells := h.cells
  unfold records
  cases hrows : rows bytes with
  | nil => exact absurd (hrows ▸ hcells) (by simp)
  | cons header rest =>
      rw [hrows, List.map_cons, List.map_cons, List.cons.injEq] at hcells
      rcases hcells with ⟨hheader, hrest⟩
      simp only [hheader, texts_encoded]
      rw [toOption_mapM]
      have hwidths := h.widths
      -- The induction is on the rows below the header, whatever the bytes were.
      clear h hrows
      induction rest generalizing table with
      | nil =>
          rw [List.map_nil, eq_comm, List.map_eq_nil_iff] at hrest
          rw [hrest]
          rfl
      | cons r rest ih =>
          cases table with
          | nil => exact absurd hrest (by simp)
          | cons row table =>
              rw [List.map_cons, List.map_cons, List.cons.injEq] at hrest
              have hrecord := record_of_encoded names row build r hrest.1
                (hwidths row List.mem_cons_self)
              rw [List.mapM_cons, List.mapM_cons, hrecord,
                ih table hrest.2 fun row hrow => hwidths row (List.mem_cons_of_mem _ hrow)]

/-! ### Writing a table -/

/-- The bytes of a cell with every quotation mark twice. -/
def doubled (cell : List UInt8) : List UInt8 :=
  cell.flatMap fun b => if b == Reader.quote then [b, b] else [b]

/-- A cell in quotation marks. -/
def quotedCell (cell : List UInt8) : List UInt8 :=
  Reader.quote :: (doubled cell ++ [Reader.quote])

/-- A row with commas between its cells. -/
def quotedLine : List (List UInt8) → List UInt8
  | [] => [Reader.lineFeed]
  | [cell] => quotedCell cell ++ [Reader.lineFeed]
  | cell :: cells => quotedCell cell ++ Reader.comma :: quotedLine cells

/-- A table with quotation marks around all cells. -/
def written (table : List (List (List UInt8))) : List UInt8 :=
  table.flatMap quotedLine

namespace Reader

/-- The rest of a cell in quotation marks is read to the mark that ends it. -/
theorem rows_quoted (cell rest : List UInt8) (r : Reader) (hmode : r.mode = .quoted) :
    ∃ r' : Reader, r'.mode = .afterQuote ∧ r'.cell = cell.reverse ++ r.cell ∧ r'.cells = r.cells ∧
      rows r (doubled cell ++ quote :: rest) = rows r' rest := by
  induction cell generalizing r with
  | nil =>
      refine ⟨{ r with mode := .afterQuote, line := r.line }, rfl, rfl, rfl, ?_⟩
      rw [doubled, List.flatMap_nil, List.nil_append, rows, step, take, hmode]
      rfl
  | cons b cell ih =>
      -- Whatever the byte is, reading goes on in quotation marks with it in the cell.
      have hkeep : ∃ r' : Reader, r'.mode = .quoted ∧ r'.cell = b :: r.cell ∧ r'.cells = r.cells ∧
          rows r (doubled (b :: cell) ++ quote :: rest)
            = rows r' (doubled cell ++ quote :: rest) := by
        by_cases hb : b = quote
        · refine ⟨r.keep .quoted b, rfl, rfl, rfl, ?_⟩
          have hdouble : doubled (b :: cell) = b :: b :: doubled cell := by
            rw [doubled, List.flatMap_cons, if_pos (beq_iff_eq.mpr hb)]
            rfl
          rw [hdouble, hb, List.cons_append, List.cons_append, rows, step, take, hmode]
          simp only [beq_self_eq_true, if_true]
          rw [rows, step, take]
          rfl
        · refine ⟨{ r.keep .quoted b with line := if b == lineFeed then r.line + 1 else r.line },
            rfl, rfl, rfl, ?_⟩
          have hsingle : doubled (b :: cell) = b :: doubled cell := by
            rw [doubled, List.flatMap_cons, if_neg (mt beq_iff_eq.mp hb)]
            rfl
          rw [hsingle, List.cons_append, rows, step, take, hmode]
          simp only [beq_iff_eq, hb, if_false]
          rfl
      rcases hkeep with ⟨r', hmode', hcell', hcells', hrows'⟩
      rcases ih r' hmode' with ⟨r'', hmode'', hcell'', hcells'', hrows''⟩
      refine ⟨r'', hmode'', ?_, hcells''.trans hcells', hrows'.trans hrows''⟩
      rw [hcell'', hcell', List.reverse_cons, List.append_assoc]
      rfl

/-- Where a cell in quotation marks may start. -/
def AtStart (r : Reader) : Prop :=
  (r.mode = .rowStart ∨ r.mode = .cellStart) ∧ r.cell = []

/-- A cell in quotation marks is read to its end. -/
theorem rows_quotedCell (cell rest : List UInt8) (r : Reader) (hr : r.AtStart) :
    ∃ r' : Reader, r'.mode = .afterQuote ∧ r'.cell = cell.reverse ∧ r'.cells = r.cells ∧
      rows r (quotedCell cell ++ rest) = rows r' rest := by
  have hopen : rows r (quotedCell cell ++ rest)
      = rows { r with mode := .quoted } (doubled cell ++ quote :: rest) := by
    rw [quotedCell, List.cons_append, List.append_assoc, rows, step, take]
    rcases hr.1 with hmode | hmode
    · rw [hmode]
      rfl
    · rw [hmode]
      rfl
  rcases rows_quoted cell rest { r with mode := .quoted } rfl with
    ⟨r', hmode', hcell', hcells', hrows'⟩
  refine ⟨r', hmode', ?_, hcells', hopen.trans hrows'⟩
  rw [hcell', hr.2, List.append_nil]

/-- A row is read to its end, by induction on the cells that are left of it. -/
theorem rows_quotedLine (cells done : List (List UInt8)) (rest : List UInt8) (r : Reader)
    (hr : r.AtStart) (hdone : r.cells = done.reverse) (hcells : cells ≠ []) :
    ∃ (r' : Reader) (row : Row), r'.mode = .rowStart ∧ r'.cell = [] ∧ r'.cells = [] ∧
      row.cells = done ++ cells ∧ rows r (quotedLine cells ++ rest) = row :: rows r' rest := by
  induction cells generalizing r done with
  | nil => exact absurd rfl hcells
  | cons cell cells ih =>
      cases cells with
      | nil =>
          rcases rows_quotedCell cell (lineFeed :: rest) r hr with
            ⟨r₁, hmode₁, hcell₁, hcells₁, hrows₁⟩
          -- Behind the last cell the line ends, and the reader starts a row again.
          let r₂ : Reader := { r₁ with line := r₁.line + 1 }
          refine ⟨r₂.endRow .rowStart, r₂.row, rfl, rfl, rfl, ?_, ?_⟩
          · change (r₁.cell.reverse :: r₁.cells).reverse = _
            rw [hcell₁, hcells₁, hdone, List.reverse_reverse, List.reverse_cons,
              List.reverse_reverse]
          · rw [quotedLine, List.append_assoc, List.singleton_append, hrows₁, rows, step, take,
              hmode₁]
            rfl
      | cons next cells =>
          rcases rows_quotedCell cell (comma :: (quotedLine (next :: cells) ++ rest)) r hr with
            ⟨r₁, hmode₁, hcell₁, hcells₁, hrows₁⟩
          have hcomma : rows r₁ (comma :: (quotedLine (next :: cells) ++ rest))
              = rows r₁.endCell (quotedLine (next :: cells) ++ rest) := by
            rw [rows, step, take, hmode₁]
            rfl
          -- The reader has its cells in reverse, so this one comes to stand in front of those
          -- before it.
          have hdone₁ : r₁.endCell.cells = (done ++ [cell]).reverse := by
            change r₁.cell.reverse :: r₁.cells = _
            rw [hcell₁, hcells₁, hdone, List.reverse_reverse, List.reverse_append]
            rfl
          rcases ih (done ++ [cell]) r₁.endCell ⟨.inr rfl, rfl⟩ hdone₁ (List.cons_ne_nil _ _) with
            ⟨r₂, row, hmode₂, hcell₂, hcells₂, hrow, hrows₂⟩
          refine ⟨r₂, row, hmode₂, hcell₂, hcells₂, ?_, ?_⟩
          · rw [hrow, List.append_assoc]
            rfl
          · rw [quotedLine, List.append_assoc, List.cons_append, hrows₁, hcomma, hrows₂]
            simp

end Reader

/-- The rows of a table are read back, one after the other. -/
theorem Reader.rows_written (table : List (List (List UInt8))) (r : Reader)
    (hr : r.mode = .rowStart) (hcell : r.cell = []) (hcells : r.cells = [])
    (hne : ∀ cells ∈ table, cells ≠ []) :
    (Reader.rows r (written table)).map Row.cells = table := by
  induction table generalizing r with
  | nil =>
      rw [written, List.flatMap_nil, Reader.rows, Reader.last, hr]
      rfl
  | cons cells table ih =>
      rcases Reader.rows_quotedLine cells [] (written table) r ⟨.inl hr, hcell⟩ hcells
        (hne cells List.mem_cons_self) with ⟨r', row, hmode', hcell', hcells', hrow, hrows⟩
      have hwritten : written (cells :: table) = quotedLine cells ++ written table :=
        List.flatMap_cons
      rw [hwritten, hrows, List.map_cons, hrow, List.nil_append,
        ih r' hmode' hcell' hcells' fun cells h => hne cells (List.mem_cons_of_mem _ h)]

/-- A written table does not start with a mark for the order of its bytes. -/
theorem withoutOrderMark_written (table : List (List (List UInt8))) :
    withoutOrderMark (written table) = written table := by
  have hline : ∀ cells more, withoutOrderMark (quotedLine cells ++ more)
      = quotedLine cells ++ more := by
    intro cells more
    cases cells with
    | nil => rfl
    | cons cell cells =>
        cases cells with
        | nil => rfl
        | cons next cells => rfl
  cases table with
  | nil => rfl
  | cons cells table => exact hline cells (written table)

/-- Every table has bytes: what is written for it reads back. -/
theorem writes_written (names : List String) (table : List (List String)) (hnames : names ≠ [])
    (hwidths : ∀ row ∈ table, row.length = names.length) :
    Writes (written ((names :: table).map encoded)) names table := by
  refine ⟨?_, hwidths⟩
  rw [rows, withoutOrderMark_written]
  refine Reader.rows_written _ {} rfl rfl rfl fun cells hcells => ?_
  rcases List.mem_map.mp hcells with ⟨row, hrow, rfl⟩
  have hlength : row.length = names.length := by
    rcases List.mem_cons.mp hrow with rfl | hrow
    · rfl
    · exact hwidths row hrow
  intro hnil
  rw [encoded, List.map_eq_nil_iff] at hnil
  rw [hnil, eq_comm, List.length_nil, List.length_eq_zero_iff] at hlength
  exact hnames hlength

end Csv

end RunReport
