import RunReport.Page.Cell

/-!
# The List of Suites

A table with one line of totals for every suite.

The name of a suite is a link if the suite has a number. The total of an incomplete suite says how
many of its tests have an outcome.

## Main definitions

* `SuiteListPage`: The suites, and what is highlighted.
* `SuiteListPage.rows`: The rows of the table.
* `SuiteListPage.render`: The page.
-/

namespace RunReport

open Template Page

/-- Summaries of suites, and how they are shown. -/
structure SuiteListPage where
  formUrl : Url
  suites : List SuiteSummary
  criteria : HighlightCriteria := .failing

/-- A row of the table of suites. -/
structure SuiteListRow where
  name : String
  url : Option String
  isIncomplete : Bool
  status : String
  elapsed : String
  totals : SuiteTotals
  total : String
  classes : SuiteRowClasses
  deriving DecidableEq

/-- A row as a template sees it. -/
def SuiteListRow.value (r : SuiteListRow) : Value :=
  .object [
    ("name", .text r.name), ("url", .maybe r.url), ("incomplete", .bool r.isIncomplete),
    ("status", .text r.status), ("elapsed", .text r.elapsed),
    ("passing", .count r.totals.passing), ("failing", .count r.totals.failing),
    ("skipped", .count r.totals.skipped), ("blacklisted", .count r.totals.blacklisted),
    ("long", .count r.totals.long), ("killed", .count r.totals.killed), ("total", .text r.total),
    ("row_class", .text r.classes.row), ("passing_class", .text r.classes.passing),
    ("failing_class", .text r.classes.failing), ("skipped_class", .text r.classes.skipped),
    ("long_class", .text r.classes.long), ("total_class", .text r.classes.total)]

namespace SuiteListPage

/-- A page with the suites of some records. -/
def ofTests (formUrl : Url) (tests : List TestRecord) (h : Highlighter) : SuiteListPage :=
  { formUrl, suites := SuiteSummary.ofTests h tests, criteria := h.criteria }

/-- A page with those suites that a filter keeps. -/
def filtered (f : NameFilter) (p : SuiteListPage) : SuiteListPage :=
  { p with suites := SuiteSummary.filtered f p.suites }

/-- The address of a suite, if it has a number. -/
def suiteLink (p : SuiteListPage) (s : SuiteSummary) : Option Url :=
  if s.suiteId = 0 then none
  else some (p.formUrl.withPairs [(Parameter.suiteId, idText s.suiteId)])

/-- The total of a suite, with the number of outcomes if some are missing. -/
def totalText (t : SuiteTotals) : String :=
  if t.isIncomplete then Numeral.text t.completed ++ " of " ++ Numeral.text t.total
  else Numeral.text t.total

/-- The row of a suite. -/
def row (p : SuiteListPage) (s : SuiteSummary) : SuiteListRow :=
  { name := s.name
    url := (p.suiteLink s).map Url.text
    isIncomplete := s.totals.isIncomplete
    status := s.status.label
    elapsed := s.elapsed.text
    totals := s.totals
    total := totalText s.totals
    classes := s.classes p.criteria }

/-- The rows of the table. -/
def rows (p : SuiteListPage) : List SuiteListRow :=
  p.suites.map p.row

/-- The cell of a number. -/
def numberCell (styleClass name : String) : List Node :=
  cell styleClass " align=\"right\" nowrap" [.text "<b>", plain ["row", name], .text "</b>"]

/-- The name of a suite, as a link if it has one. -/
def nameCell : List Node :=
  cell "row_class" ""
    [whenTrue ["row", "url"]
      [.text "<a href=\"", escaped ["row", "url"], .text "\">", escaped ["row", "name"],
        .text "</a>"]
      [escaped ["row", "name"]],
      whenTrue ["row", "incomplete"] [.text " (incomplete)"]]

/-- A row of the table. -/
def rowNodes : List Node :=
  [.text "<tr>\n"] ++ nameCell ++
  numberCell "row_class" "elapsed" ++
  numberCell "passing_class" "passing" ++
  numberCell "failing_class" "failing" ++
  numberCell "skipped_class" "skipped" ++
  numberCell "row_class" "blacklisted" ++
  numberCell "long_class" "long" ++
  numberCell "long_class" "killed" ++
  cell "row_class" " align=\"center\"" [plain ["row", "status"]] ++
  numberCell "total_class" "total" ++
  [.text "</tr>\n"]

/-- The page with places for the rows. -/
def template : Template :=
  ⟨[.text "<table width=\"100%\" cellspacing=\"0\" cellpadding=\"3\">\n",
    .text "<tr>\n",
    .text "  <td nowrap width=\"40%\"><u>Suite</u></td>\n",
    .text "  <td nowrap align=\"right\"><u>Time</u></td>\n",
    .text "  <td nowrap align=\"right\"><u>Pass</u></td>\n",
    .text "  <td nowrap align=\"right\"><u>Fail</u></td>\n",
    .text "  <td nowrap align=\"right\"><u>Skip</u></td>\n",
    .text "  <td nowrap align=\"right\"><u>Blacklist</u></td>\n",
    .text "  <td nowrap align=\"right\"><u>Long</u></td>\n",
    .text "  <td nowrap align=\"right\"><u>Killed</u></td>\n",
    .text "  <td nowrap align=\"center\"><u>Status</u></td>\n",
    .text "  <td nowrap align=\"right\"><u>Total</u></td>\n",
    .text "</tr>\n",
    forEach "row" ["rows"] rowNodes,
    noResults "10",
    .text "</table>\n"]⟩

/-- What the names in the template are bound to. -/
def bindings (p : SuiteListPage) : Bindings :=
  tableBindings (p.rows.map SuiteListRow.value)

/-- The page. -/
def render (p : SuiteListPage) : Option String :=
  template.render p.bindings

end SuiteListPage

end RunReport
