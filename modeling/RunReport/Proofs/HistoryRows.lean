import RunReport.Proofs.Criteria
import RunReport.Proofs.NodeText
import RunReport.Proofs.Rendering

/-!
# The Rows of a History

What the page on the history of a test says of the records that it lists.

Which records these are is one question, and what becomes of them on the page is another. A page
could know its records and write none of them. `Lists` says that it does not: the page has one row
for each record, in their order, with what the row should say spelled out from the record
(`historyRow`), and its text is the head of the table, these rows, and its end (`historyText`). In
place of rows an empty history has the line that says so.

The template is followed node by node, as for the other pages, and the row of a record that the page
makes is compared with the spelled-out one last (`row_eq_historyRow`).

## Main definitions

* `Page.noResultsLine`: The line of a table without rows.
* `Report.historyRow`: The row that a record should have.
* `TestHistoryRow.text`, `TestHistoryPage.historyText`: A row as it is written, and a page of rows.
* `TestHistoryPage.Lists`: A page and its text show some records.

## Theorems

* `renderNodes_texts`, `render_noResults`: What is written in place of the rows.
* `render_historyRow`, `render_history`: What is written for a row, and for a page.
* `row_eq_historyRow`: The row of a record is the one that it should have.
* `lists_tests`: A page shows its records.
* `Lists.noResults`: A page that shows no records says so.
-/

namespace RunReport

open Template Page

/-! ### The line of an empty table -/

/-- The line of a table without rows. -/
def Page.noResultsLine (columns : String) : String :=
  "<tr><td colspan=\"" ++ columns ++ "\" align=\"center\">No Results Found</td></tr>\n"

/-- Three texts, whatever they are: with the texts of the table in their place, looking for an empty
    one among them would take them apart. -/
theorem Template.renderNodes_texts (env : Bindings) (a b c : String) :
    renderNodes env [.text a, .text b, .text c] = some (a ++ b ++ c) := by
  simp only [renderNodes, Node.render, Option.map_some, String.append_empty, String.append_assoc]

/-- The line is written if the table has no rows. -/
theorem Page.render_noResults (env : Bindings) (columns : String) (isEmpty : Bool)
    (h : (operandOf ["no_results"]).value? env = some (.bool isEmpty)) :
    (noResults columns).render env = some (if isEmpty then noResultsLine columns else "") :=
  render_whenFlag env ["no_results"] _ [] isEmpty _ _ h (renderNodes_texts env _ columns _)
    (by rw [renderNodes])

/-! ### Rows -/

/-- The row that a record should have in a history: its number and its address, its times, or a
    blank for one that is not known, its status, and the classes of its highlights. -/
def Report.historyRow (m : Manifest) (q : Query) (t : TestRecord) : TestHistoryRow :=
  { id := Numeral.text t.id.toNat
    url := (testLink m.formUrl t).text
    start := (t.start.map Instant.shortText).getD "&nbsp;"
    finish := (t.finish.map Instant.shortText).getD "&nbsp;"
    elapsed := (t.elapsed?.map Span.text).getD "&nbsp;"
    status := t.status.label
    classes := .ofClassification (Highlighter.classify ⟨m.longRunning, highlightInForce q⟩ t) }

/-- A row as it is written. -/
def TestHistoryRow.text (r : TestHistoryRow) : String :=
  String.join ["<tr>\n",
    "  <td class=\"", r.classes.row, "\"", " align=\"right\"", ">", "<a href=\"",
    Markup.escape r.url, "\">", r.id, "</a>", "</td>\n",
    "  <td class=\"", r.classes.row, "\"", " align=\"center\"", ">", r.start, "</td>\n",
    "  <td class=\"", r.classes.row, "\"", " align=\"center\"", ">", r.finish, "</td>\n",
    "  <td class=\"", r.classes.time, "\"", " align=\"right\"", ">", r.elapsed, "</td>\n",
    "  <td class=\"", r.classes.status, "\"", " align=\"center\"", ">", r.status, "</td>\n",
    "</tr>\n"]

namespace TestHistoryPage

/-- A page with some rows, or with the line that says that there are none. -/
def historyText (formUrl : Url) (rows : List TestHistoryRow) : String :=
  String.join ["<form action=\"", Markup.escape formUrl.text, "\">\n",
    "<table border=\"1\" cellspacing=\"0\" cellpadding=\"3\">\n", "<tr>\n",
    "  <td nowrap class=\"tableheader\" width=\"5%\"  align=\"right\">Test ID</td>\n",
    "  <td nowrap class=\"tableheader\" width=\"35%\" align=\"center\">Start Time</td>\n",
    "  <td nowrap class=\"tableheader\" width=\"35%\" align=\"center\">End Time</td>\n",
    "  <td nowrap class=\"tableheader\" width=\"10%\" align=\"right\">Elapsed Time</td>\n",
    "  <td nowrap class=\"tableheader\" width=\"15%\" align=\"center\">Status</td>\n", "</tr>\n",
    String.join (rows.map TestHistoryRow.text),
    if rows.isEmpty then noResultsLine "5" else "", "</table>\n", "</form>\n"]

/-- A page and its text show some records: the page is about them, it has a row for each of them in
    their order, and these rows are what is written. -/
structure Lists (m : Manifest) (q : Query) (page : TestHistoryPage) (html : String)
    (records : List TestRecord) : Prop where
  tests : page.tests = records
  rows : page.rows = records.map (Report.historyRow m q)
  text : html = historyText m.formUrl (records.map (Report.historyRow m q))

theorem render_historyRow (env : Bindings) (r : TestHistoryRow) :
    renderNodes (("row", r.value) :: env) rowNodes = some r.text := by
  refine renderNodes_of_writes _ _ _ ?_
  simp only [rowNodes, cell, List.cons_append, List.nil_append, writes_cons, writes_nil,
    render_text, true_and, and_true]
  have hrow := render_plain (("row", r.value) :: env) ["row", "row_class"] (.text r.classes.row) rfl
  exact ⟨hrow, render_escaped _ _ _ rfl, render_plain _ _ (.text r.id) rfl, hrow,
    render_plain _ _ (.text r.start) rfl, hrow, render_plain _ _ (.text r.finish) rfl,
    render_plain _ _ (.text r.classes.time) rfl, render_plain _ _ (.text r.elapsed) rfl,
    render_plain _ _ (.text r.classes.status) rfl, render_plain _ _ (.text r.status) rfl⟩

/-- A page is written row by row. -/
theorem render_history (p : TestHistoryPage) :
    p.render = some (historyText p.formUrl p.rows) := by
  have hrows := render_forEach p.bindings "row" ["rows"] rowNodes p.rows TestHistoryRow.value
    TestHistoryRow.text rfl fun r _ => render_historyRow p.bindings r
  have hnone := render_noResults p.bindings "5" (p.rows.map TestHistoryRow.value).isEmpty rfl
  rw [List.isEmpty_map] at hnone
  refine renderNodes_of_writes _ _ _ ?_
  simp only [template, formStart, List.cons_append, List.nil_append, writes_cons, writes_nil,
    render_text, true_and, and_true]
  exact ⟨render_escaped _ _ _ rfl, hrows, hnone⟩

section Lists

variable (m : Manifest) (q : Query) (p : TestHistoryPage)

/-- The row of a record is the one that it should have, if the page has the manifest's address and
    threshold and the highlights in force. -/
theorem row_eq_historyRow (t : TestRecord) (hurl : p.formUrl = m.formUrl)
    (hmarks : p.highlighter = ⟨m.longRunning, Report.highlightInForce q⟩) :
    p.row t = Report.historyRow m q t := by
  rw [row, hurl, hmarks]
  rfl

/-- Such a page shows its records. -/
theorem lists_tests (html : String) (hurl : p.formUrl = m.formUrl)
    (hmarks : p.highlighter = ⟨m.longRunning, Report.highlightInForce q⟩)
    (hhtml : p.render = some html) : Lists m q p html p.tests := by
  have hrows : p.rows = p.tests.map (Report.historyRow m q) :=
    List.map_congr_left fun t _ => p.row_eq_historyRow m q t hurl hmarks
  refine ⟨rfl, hrows, ?_⟩
  rw [render_history, hurl, hrows] at hhtml
  exact (Option.some.inj hhtml).symm

/-- A page that shows no records says so. -/
theorem Lists.noResults (html : String) (h : Lists m q p html []) :
    ∃ front back, html = front ++ noResultsLine "5" ++ back := by
  rw [h.text]
  exact contains_join _ _ (by simp)

end Lists

end TestHistoryPage

end RunReport
