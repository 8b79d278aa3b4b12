import RunReport.Page.Cell

/-!
# The History of a Test

A table with past executions of a test.

A failed or skipped execution colours its whole row. One that only took long is marked as well, but
its time is what stands out.

## Main definitions

* `TestHistoryPage`: The records, and how they are highlighted.
* `HistoryRowClasses.ofClassification`: The style classes of a row.
* `TestHistoryPage.render`: The page.
-/

namespace RunReport

open Template Page

/-- The style classes of a row of the history. -/
structure HistoryRowClasses where
  row : String
  status : String
  time : String
  deriving DecidableEq

/-- The style classes of the row of a test with some highlights. -/
def HistoryRowClasses.ofClassification (c : Classification) : HistoryRowClasses :=
  let row := c.status.map Highlight.rowClass
  let status := c.status.map Highlight.columnClass
  match c.duration with
  | some highlight =>
    { row := row.getD Highlight.timing.rowClass
      status := status.getD Highlight.timing.rowClass
      time := highlight.columnClass }
  | none => { row := row.getD "", status := status.getD "", time := row.getD "" }

/-- Past executions of a test. -/
structure TestHistoryPage where
  formUrl : Url
  tests : List TestRecord
  highlighter : Highlighter := default

/-- A row of the history. -/
structure TestHistoryRow where
  id : String
  url : String
  start : String
  finish : String
  elapsed : String
  status : String
  classes : HistoryRowClasses
  deriving DecidableEq

/-- A row as a template sees it. -/
def TestHistoryRow.value (r : TestHistoryRow) : Value :=
  .object [
    ("id", .text r.id), ("url", .text r.url), ("start", .text r.start), ("end", .text r.finish),
    ("elapsed", .text r.elapsed), ("status", .text r.status), ("row_class", .text r.classes.row),
    ("status_class", .text r.classes.status), ("time_class", .text r.classes.time)]

namespace TestHistoryPage

/-- The row of a record. -/
def row (p : TestHistoryPage) (t : TestRecord) : TestHistoryRow :=
  { id := idText t.id
    url := (testLink p.formUrl t).text
    start := timeText t.start
    finish := timeText t.finish
    elapsed := elapsedText t
    status := t.status.label
    classes := .ofClassification (p.highlighter.classify t) }

/-- The rows of the table. -/
def rows (p : TestHistoryPage) : List TestHistoryRow :=
  p.tests.map p.row

/-- A row of the table. -/
def rowNodes : List Node :=
  [.text "<tr>\n"] ++
  cell "row_class" " align=\"right\""
    [.text "<a href=\"", escaped ["row", "url"], .text "\">", plain ["row", "id"],
      .text "</a>"] ++
  cell "row_class" " align=\"center\"" [plain ["row", "start"]] ++
  cell "row_class" " align=\"center\"" [plain ["row", "end"]] ++
  cell "time_class" " align=\"right\"" [plain ["row", "elapsed"]] ++
  cell "status_class" " align=\"center\"" [plain ["row", "status"]] ++
  [.text "</tr>\n"]

/-- The page with places for the rows. -/
def template : Template :=
  ⟨formStart ++ [
    .text "<table border=\"1\" cellspacing=\"0\" cellpadding=\"3\">\n",
    .text "<tr>\n",
    .text "  <td nowrap class=\"tableheader\" width=\"5%\"  align=\"right\">Test ID</td>\n",
    .text "  <td nowrap class=\"tableheader\" width=\"35%\" align=\"center\">Start Time</td>\n",
    .text "  <td nowrap class=\"tableheader\" width=\"35%\" align=\"center\">End Time</td>\n",
    .text "  <td nowrap class=\"tableheader\" width=\"10%\" align=\"right\">Elapsed Time</td>\n",
    .text "  <td nowrap class=\"tableheader\" width=\"15%\" align=\"center\">Status</td>\n",
    .text "</tr>\n",
    forEach "row" ["rows"] rowNodes,
    noResults "5",
    .text "</table>\n",
    .text "</form>\n"]⟩

/-- What the names in the template are bound to. -/
def bindings (p : TestHistoryPage) : Bindings :=
  ("form_url", .text p.formUrl.text) :: tableBindings (p.rows.map TestHistoryRow.value)

/-- The page. -/
def render (p : TestHistoryPage) : Option String :=
  template.render p.bindings

end TestHistoryPage

end RunReport
