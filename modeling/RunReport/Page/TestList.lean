import RunReport.Page.Cell

/-!
# The List of Tests

A table with the executions of every test, group by group.

The first row of a group has cells for its number and its name that reach down over all its rows.
Rows are shaded by turns, group by group, and a highlighted cell has its own colour instead. A
collapsed list shows of each group only the record that comes before all others.

## Main definitions

* `TestListPage`: The groups, and how they are shown.
* `TestListPage.rows`: The rows of the table.
* `TestListPage.render`: The page.
-/

namespace RunReport

open Template Page

/-- The executions of tests in groups, and how they are shown. -/
structure TestListPage where
  formUrl : Url
  groups : List TestGroup
  highlighter : Highlighter := default
  isCollapsed : Bool := false

/-- A row of the table of tests. -/
structure TestListRow where
  isFirst : Bool
  number : Nat
  rowspan : Nat
  count : Nat
  group : String
  elapsed : String
  status : String
  url : String
  rowClass : String
  statusClass : String
  timeClass : String
  deriving DecidableEq

/-- A row as a template sees it. -/
def TestListRow.value (r : TestListRow) : Value :=
  .object [
    ("first", .bool r.isFirst), ("number", .count r.number), ("rowspan", .count r.rowspan),
    ("count", .count r.count), ("group", .text r.group), ("elapsed", .text r.elapsed),
    ("status", .text r.status), ("url", .text r.url), ("row_class", .text r.rowClass),
    ("status_class", .text r.statusClass), ("time_class", .text r.timeClass)]

namespace TestListPage

/-- A page with all groups of some records. -/
def ofTests (formUrl : Url) (tests : List TestRecord) : TestListPage :=
  { formUrl, groups := TestGroup.ofTests tests }

/-- A page with its groups in another order. -/
def sorted (cmp : TestGroup → TestGroup → Ordering) (p : TestListPage) : TestListPage :=
  { p with groups := TestGroup.sorted cmp p.groups }

/-- A page with those groups that a filter keeps. -/
def filtered (f : NameFilter) (p : TestListPage) : TestListPage :=
  { p with groups := TestGroup.filtered f p.groups }

/-- The style class of the rows of a group. -/
def shade (number : Nat) : String :=
  if number % 2 = 0 then "shadeEvenRow" else "shadeOddRow"

/-- The records of a group that are shown. -/
def shown (p : TestListPage) (g : TestGroup) : List TestRecord :=
  if p.isCollapsed then (TestRecord.first? g.tests).toList else g.tests

/-- The row of a record in a group. -/
def row (p : TestListPage) (number rowspan : Nat) (g : TestGroup) (isFirst : Bool)
    (t : TestRecord) : TestListRow :=
  let c := p.highlighter.classify t
  { isFirst, number, rowspan
    count := g.tests.length
    group := g.name
    elapsed := elapsedText t
    status := t.status.label
    url := (testLink p.formUrl t).text
    rowClass := shade number
    statusClass := (c.status.map Highlight.columnClass).getD (shade number)
    timeClass := (c.duration.map Highlight.columnClass).getD (shade number) }

/-- The rows of a group. -/
def groupRows (p : TestListPage) (number : Nat) (g : TestGroup) : List TestListRow :=
  let rowspan := (p.shown g).length
  match p.shown g with
  | [] => []
  | t :: ts => p.row number rowspan g true t :: ts.map (p.row number rowspan g false)

/-- The rows of groups that are numbered from a number on. -/
def rowsFrom (p : TestListPage) (number : Nat) : List TestGroup → List TestListRow
  | [] => []
  | g :: gs => p.groupRows number g ++ p.rowsFrom (number + 1) gs

/-- The rows of the table. -/
def rows (p : TestListPage) : List TestListRow :=
  p.rowsFrom 1 p.groups

/-- The cells for the number and the name of a group. -/
def groupCells : List Node :=
  [.text "  <td class=\"", plain ["row", "row_class"], .text "\" align=\"right\" rowspan=\"",
    plain ["row", "rowspan"], .text "\">", plain ["row", "number"], .text "</td>\n",
    .text "  <td class=\"", plain ["row", "row_class"], .text "\" rowspan=\"",
    plain ["row", "rowspan"], .text "\">", escaped ["row", "group"],
    whenAbove ["row", "count"] 1
      [.text "&nbsp;&nbsp;(", plain ["row", "count"], .text " tests)"],
    .text "</td>\n"]

/-- A row of the table. -/
def rowNodes : List Node :=
  [.text "<tr>\n", whenTrue ["row", "first"] groupCells] ++
  cell "time_class" " align=\"right\"" [plain ["row", "elapsed"]] ++
  cell "status_class" " align=\"center\""
    [.text "<a href=\"", escaped ["row", "url"], .text "\">", plain ["row", "status"],
      .text "</a>"] ++
  [.text "</tr>\n"]

/-- The page with places for the rows. -/
def template : Template :=
  ⟨formStart ++ [
    .text "<table width=\"100%\" cellspacing=\"0\" cellpadding=\"3\">\n",
    .text "<tr>\n",
    .text "  <td nowrap width=\"2%\">&nbsp;</td>\n",
    .text "  <td nowrap width=\"80%\"><u>Test</u></td>\n",
    .text "  <td nowrap width=\"10%\" align=\"right\"><u>Time</u></td>\n",
    .text "  <td nowrap width=\"10%\" align=\"center\"><u>Status</u></td>\n",
    .text "</tr>\n",
    forEach "row" ["rows"] rowNodes,
    noResults "4",
    .text "</table>\n",
    .text "</form>\n"]⟩

/-- What the names in the template are bound to. -/
def bindings (p : TestListPage) : Bindings :=
  ("form_url", .text p.formUrl.text) :: tableBindings (p.rows.map TestListRow.value)

/-- The page. -/
def render (p : TestListPage) : Option String :=
  template.render p.bindings

end TestListPage

end RunReport
