import RunReport.Query
import RunReport.Template.Basic
import RunReport.Url.Basic

/-!
# Cells and Links

What the pages have in common.

A cell without a value holds a space that does not break, so that its borders are drawn. A link to
a test names the test, and its suite if it ran in one; it takes the place of any query that the
page's own address has.

## Main definitions

* `Page.blank`, `Page.elapsedText`, `Page.timeText`: The texts of cells.
* `Page.testLink`: The address of a test.
* `Page.cell`, `Page.noResults`: Parts of tables.
-/

namespace RunReport

namespace Page

open Template

/-- The text of a cell without a value. -/
def blank : String := "&nbsp;"

/-- The time a test took. -/
def elapsedText (t : TestRecord) : String :=
  (t.elapsed?.map Span.text).getD blank

/-- A point in time. -/
def timeText (t : Option Instant) : String :=
  (t.map Instant.shortText).getD blank

/-- An id as the value of a parameter. -/
def idText (id : UInt64) : String :=
  Numeral.text id.toNat

/-- The parameters that name a test. -/
def testParameters (t : TestRecord) : List (String × String) :=
  (if t.hasSuite then [(Parameter.suiteId, idText t.suiteId)] else []) ++
    [(Parameter.testId, idText t.id)]

/-- The address of a test. -/
def testLink (base : Url) (t : TestRecord) : Url :=
  base.withPairs (testParameters t)

/-- A cell of a row. Its style class is a member of the row, and the attributes stand behind it. -/
def cell (styleClass attributes : String) (content : List Node) : List Node :=
  [.text "  <td class=\"", plain ["row", styleClass], .text "\"", .text attributes, .text ">"] ++
    content ++ [.text "</td>\n"]

/-- The row of a table without rows. -/
def noResults (columns : String) : Node :=
  whenTrue ["no_results"]
    [.text "<tr><td colspan=\"", .text columns,
      .text "\" align=\"center\">No Results Found</td></tr>\n"]

/-- The start of a form that is sent to the page's own address. -/
def formStart : List Node :=
  [.text "<form action=\"", escaped ["form_url"], .text "\">\n"]

/-- The bindings of a page with a table. -/
def tableBindings (rows : List Value) : Bindings :=
  [("no_results", .bool rows.isEmpty), ("rows", .list rows)]

end Page

end RunReport
