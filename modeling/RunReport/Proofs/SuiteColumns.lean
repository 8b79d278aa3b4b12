import Mathlib.Algebra.Order.BigOperators.Group.List
import Mathlib.Algebra.Order.Group.Nat
import RunReport.Proofs.HistoryRows

/-!
# The Columns of the List of Suites

Which cells of a row stand out.

What is highlighted is told by a list of rules (`rules`), of which the first that applies counts. A
rule colours a row as a whole, and some of its cells in their own way; every other cell of the row
is in the class of the row. A line of totals knows six classes and the table has ten columns, so
there is a second step, in which each column is given one of the six. It is there that the page can
miss what the rules say.

The two steps are `classes_eq` and `classText_eq`. Nine of the columns are in the class that the
rules give them. The column of killed tests has no class of its own and is not given that of the
row, but that of its neighbour, the column of long tests. It is in the wrong class as often as the
two differ, and that is if the long tests are marked (`shown_killed_iff`).

`render_page` follows the classes into the page. All cells of a row are written in one way, so the
page is a text made from a class for each cell (`pageText`). Two such texts could be the same
although the classes are not. They are not here, because a cell that is marked by mistake is in a
longer class than it should be, and a page with one of them is longer (`length_pageText_lt`).

## Main definitions

* `SuiteListPage.Column`: The columns of the table.
* `SuiteListPage.Marks`, `SuiteListPage.rules`: What a rule does to a row, and when it applies.
* `SuiteListPage.ruledClass`, `SuiteListPage.ruledRow`: The classes that the rules give.
* `SuiteListPage.LongMarked`: When the column of long tests is marked.
* `SuiteListPage.classText`: The class that a cell is shown in.
* `SuiteListPage.rowText`, `SuiteListPage.pageText`: A row and a page with a class for each cell.

## Theorems

* `marks_cases`, `marks?_eq`: What the first rule that applies does.
* `ruledClass_unmarked`: Columns that no rule marks.
* `ruledClass_long_of_marked`, `ruledClass_long_of_not_marked`: The column of long tests.
* `classes_eq`, `classText_eq`: The classes that are shown and those of the rules.
* `render_cell`, `render_row`, `render_page`: What is written for a cell, a row and a page.
* `shown_killed_iff`: When the column of killed tests is in the class of the row.
* `length_rowText_le`, `length_rowText_lt`, `length_pageText_lt`: Wrong classes make a page longer.
* `render_classes`: When a page is in the classes of the rules.
* `killed_misplaced`: A page that is not.
-/

namespace RunReport

open Template Page

namespace SuiteListPage

/-- The columns of the table, from left to right. -/
inductive Column
  | name
  | elapsed
  | passing
  | failing
  | skipped
  | blacklisted
  | long
  | killed
  | status
  | total
  deriving DecidableEq

/-- All columns, from left to right. -/
def Column.all : List Column :=
  [.name, .elapsed, .passing, .failing, .skipped, .blacklisted, .long, .killed, .status, .total]

/-! ### Rules -/

/-- What a rule does to a row: it colours the row, and some of the cells in their own way. -/
structure Marks where
  row : Highlight
  cells : List (Column × Highlight)
  deriving DecidableEq

/-- The class of a cell in a row that is marked: its own if it has one, and else that of the row. -/
def Marks.classOf (m : Marks) (c : Column) : String :=
  ((m.cells.lookup c).map Highlight.columnClass).getD m.row.rowClass

/-- The rules in their order, each with whether it applies to some counts. -/
def rules (t : SuiteTotals) (criteria : HighlightCriteria) : List (Bool × Marks) :=
  [(t.isIncomplete, ⟨.warning, [(.total, .warning)]⟩),
    (criteria = .failing ∧ 0 < t.failing ∧ 0 < t.long,
      ⟨.error, [(.failing, .error), (.long, .timing)]⟩),
    (criteria = .failing ∧ 0 < t.failing, ⟨.error, [(.failing, .error)]⟩),
    (criteria = .passing ∧ 0 < t.passing, ⟨.warning, [(.passing, .warning)]⟩),
    (criteria = .failing ∧ 0 < t.long, ⟨.timing, [(.long, .timing)]⟩),
    (criteria = .skipped ∧ 0 < t.skipped, ⟨.warning, [(.skipped, .warning)]⟩)]

/-- What the first rule that applies does. -/
def marks? (t : SuiteTotals) (criteria : HighlightCriteria) : Option Marks :=
  ((rules t criteria).find? (·.1)).map (·.2)

/-- The class that the rules give to a cell. -/
def ruledClass (t : SuiteTotals) (criteria : HighlightCriteria) (c : Column) : String :=
  (marks? t criteria).elim "" (·.classOf c)

/-- The class that the rules give to the row. -/
def ruledRow (t : SuiteTotals) (criteria : HighlightCriteria) : String :=
  (marks? t criteria).elim "" (·.row.rowClass)

/-- The columns that no rule marks. -/
def Column.unmarked : List Column :=
  [.name, .elapsed, .blacklisted, .killed, .status]

section Rules

variable (t : SuiteTotals) (criteria : HighlightCriteria)

/-- What a rule does is one of six things, whatever the counts are. -/
theorem marks_cases (m : Marks) (hm : marks? t criteria = some m) :
    m ∈ (rules {} .none).map (·.2) := by
  rcases Option.map_eq_some_iff.mp hm with ⟨rule, hrule, rfl⟩
  -- The counts decide which rules apply, but not what they do.
  have hall : (rules {} .none).map (·.2) = (rules t criteria).map (·.2) := rfl
  rw [hall]
  exact List.mem_map_of_mem (List.mem_of_find?_eq_some hrule)

/-- Columns that no rule marks are in the class of the row. -/
theorem ruledClass_unmarked (c : Column) (hc : c ∈ Column.unmarked) :
    ruledClass t criteria c = ruledRow t criteria := by
  have hnone : ∀ m ∈ (rules {} .none).map (·.2), ∀ c ∈ Column.unmarked,
      m.classOf c = m.row.rowClass := by decide +kernel
  unfold ruledClass ruledRow
  cases hm : marks? t criteria with
  | none => rfl
  | some m => exact hnone m (marks_cases t criteria m hm) c hc

/-- What the first rule that applies does, by the choice of the reader. -/
theorem marks?_eq :
    marks? t criteria =
      if t.isIncomplete then some ⟨.warning, [(.total, .warning)]⟩
      else match criteria with
        | .failing =>
          if 0 < t.failing then
            if 0 < t.long then some ⟨.error, [(.failing, .error), (.long, .timing)]⟩
            else some ⟨.error, [(.failing, .error)]⟩
          else if 0 < t.long then some ⟨.timing, [(.long, .timing)]⟩ else none
        | .passing => if 0 < t.passing then some ⟨.warning, [(.passing, .warning)]⟩ else none
        | .skipped => if 0 < t.skipped then some ⟨.warning, [(.skipped, .warning)]⟩ else none
        | .none => none := by
  unfold marks? rules
  -- Each choice of the reader leaves the rules that ask for it, and their counts decide among them.
  cases t.isIncomplete with
  | true => rfl
  | false =>
      cases criteria with
      | none => rfl
      | failing =>
          by_cases hfailing : 0 < t.failing
          · by_cases hlong : 0 < t.long
            · simp [hfailing, hlong]
            · simp [hfailing, hlong]
          · by_cases hlong : 0 < t.long
            · simp [hfailing, hlong]
            · simp [hfailing, hlong]
      | passing =>
          by_cases hpassing : 0 < t.passing
          · simp [hpassing]
          · simp [hpassing]
      | skipped =>
          by_cases hskipped : 0 < t.skipped
          · simp [hskipped]
          · simp [hskipped]

/-- When the column of long tests is marked. -/
def LongMarked : Prop :=
  t.isIncomplete = false ∧ criteria = .failing ∧ 0 < t.long

instance : Decidable (LongMarked t criteria) :=
  inferInstanceAs (Decidable (_ ∧ _))

/-- The column of long tests is in a longer class than the row if it is marked. -/
theorem ruledClass_long_of_marked (h : LongMarked t criteria) :
    (ruledRow t criteria).length < (ruledClass t criteria .long).length := by
  rcases h with ⟨hopen, rfl, hlong⟩
  rw [ruledRow, ruledClass, marks?_eq, hopen]
  by_cases hfailing : 0 < t.failing
  · simp only [Bool.false_eq_true, if_false, if_pos hfailing, if_pos hlong]
    decide
  · simp only [Bool.false_eq_true, if_false, if_neg hfailing, if_pos hlong]
    decide

/-- The column of long tests is in the class of the row if it is not marked. -/
theorem ruledClass_long_of_not_marked (h : ¬ LongMarked t criteria) :
    ruledClass t criteria .long = ruledRow t criteria := by
  rw [ruledRow, ruledClass, marks?_eq]
  cases hopen : t.isIncomplete with
  | true => rfl
  | false =>
      cases criteria with
      | none => rfl
      | failing =>
          -- Only here could a long test change the class, and the suite has none.
          have hlong : ¬ 0 < t.long := fun hlong => h ⟨hopen, rfl, hlong⟩
          dsimp only
          rw [if_neg hlong, if_neg hlong]
          split_ifs <;> rfl
      | passing =>
          dsimp only
          split_ifs <;> rfl
      | skipped =>
          dsimp only
          split_ifs <;> rfl

end Rules

/-! ### Classes of the cells -/

/-- The classes of a line that is marked. -/
def Marks.classes (m : Marks) : SuiteRowClasses :=
  { row := m.row.rowClass
    passing := m.classOf .passing
    failing := m.classOf .failing
    skipped := m.classOf .skipped
    long := m.classOf .long
    total := m.classOf .total }

/-- The classes of a line are those of the first rule that applies. -/
theorem classes_eq (s : SuiteSummary) (criteria : HighlightCriteria) :
    s.classes criteria = (marks? s.totals criteria).elim {} Marks.classes := by
  -- Both sides ask the same questions in the same order, so they agree branch by branch.
  rw [marks?_eq]
  unfold SuiteSummary.classes
  cases criteria <;> dsimp only <;> split_ifs <;> rfl

/-- The class that a cell is shown in. -/
def classText (classes : SuiteRowClasses) : Column → String
  | .name => classes.row
  | .elapsed => classes.row
  | .passing => classes.passing
  | .failing => classes.failing
  | .skipped => classes.skipped
  | .blacklisted => classes.row
  | .long => classes.long
  | .killed => classes.long
  | .status => classes.row
  | .total => classes.total

/-- Cells are shown in the class that the rules give them, except those of killed tests, which are
    shown in that of long tests. -/
theorem classText_eq (s : SuiteSummary) (criteria : HighlightCriteria) (c : Column) :
    classText (s.classes criteria) c
      = ruledClass s.totals criteria (if c = .killed then .long else c) := by
  -- A cell has the class of the row or one of the other five, and the rules have it in each way.
  have hrow : ∀ c ∈ Column.unmarked,
      ruledClass s.totals criteria c = (s.classes criteria).row := by
    intro c hc
    rw [ruledClass_unmarked _ _ c hc, classes_eq, ruledRow]
    cases marks? s.totals criteria <;> rfl
  have hmember : ∀ (f : SuiteRowClasses → String) (c : Column), f {} = "" →
      (∀ m : Marks, f m.classes = m.classOf c) →
      f (s.classes criteria) = ruledClass s.totals criteria c := by
    intro f c hnone hsome
    rw [classes_eq, ruledClass]
    cases marks? s.totals criteria with
    | none => exact hnone
    | some m => exact hsome m
  cases c with
  | name => exact (hrow .name (by decide)).symm
  | elapsed => exact (hrow .elapsed (by decide)).symm
  | blacklisted => exact (hrow .blacklisted (by decide)).symm
  | status => exact (hrow .status (by decide)).symm
  | passing => exact hmember SuiteRowClasses.passing .passing rfl fun _ => rfl
  | failing => exact hmember SuiteRowClasses.failing .failing rfl fun _ => rfl
  | skipped => exact hmember SuiteRowClasses.skipped .skipped rfl fun _ => rfl
  | long => exact hmember SuiteRowClasses.long .long rfl fun _ => rfl
  | killed => exact hmember SuiteRowClasses.long .long rfl fun _ => rfl
  | total => exact hmember SuiteRowClasses.total .total rfl fun _ => rfl

/-! ### What is written -/

/-- A cell as it is written. -/
def cellText (styleClass attributes content : String) : String :=
  String.join ["  <td class=\"", styleClass, "\"", attributes, ">", content, "</td>\n"]

/-- The attributes of a cell besides its class. -/
def attributesOf : Column → String
  | .name => ""
  | .status => " align=\"center\""
  | _ => " align=\"right\" nowrap"

/-- The member of a row that a column has its class from. -/
def sourceOf : Column → String
  | .passing => "passing_class"
  | .failing => "failing_class"
  | .skipped => "skipped_class"
  | .long => "long_class"
  | .killed => "long_class"
  | .total => "total_class"
  | _ => "row_class"

/-- What stands in a cell of a number. -/
def numberNodes (name : String) : List Node :=
  [.text "<b>", plain ["row", name], .text "</b>"]

/-- What stands in a cell. -/
def contentNodes : Column → List Node
  | .name => [
      whenTrue ["row", "url"]
        [.text "<a href=\"", escaped ["row", "url"], .text "\">", escaped ["row", "name"],
          .text "</a>"]
        [escaped ["row", "name"]],
      whenTrue ["row", "incomplete"] [.text " (incomplete)"]]
  | .elapsed => numberNodes "elapsed"
  | .passing => numberNodes "passing"
  | .failing => numberNodes "failing"
  | .skipped => numberNodes "skipped"
  | .blacklisted => numberNodes "blacklisted"
  | .long => numberNodes "long"
  | .killed => numberNodes "killed"
  | .status => [plain ["row", "status"]]
  | .total => numberNodes "total"

/-- A row has a cell for each column, and each cell takes its class from one member. -/
theorem rowNodes_eq :
    rowNodes = [.text "<tr>\n"] ++
      (Column.all.flatMap fun c => cell (sourceOf c) (attributesOf c) (contentNodes c)) ++
      [.text "</tr>\n"] :=
  rfl

/-- A number as it is written in a cell. -/
def numberText (v : Value) : String :=
  String.join ["<b>", v.asText, "</b>"]

/-- What is written in a cell. -/
def contentText (r : SuiteListRow) : Column → String
  | .name => String.join [
      r.url.elim (Markup.escape r.name) fun url =>
        String.join ["<a href=\"", Markup.escape url, "\">", Markup.escape r.name, "</a>"],
      if r.isIncomplete then " (incomplete)" else ""]
  | .elapsed => numberText (.text r.elapsed)
  | .passing => numberText (.count r.totals.passing)
  | .failing => numberText (.count r.totals.failing)
  | .skipped => numberText (.count r.totals.skipped)
  | .blacklisted => numberText (.count r.totals.blacklisted)
  | .long => numberText (.count r.totals.long)
  | .killed => numberText (.count r.totals.killed)
  | .status => r.status
  | .total => numberText (.text r.total)

/-- A row with a class for each of its cells. -/
def rowText (r : SuiteListRow) (classOf : Column → String) : String :=
  String.join ["<tr>\n",
    String.join (Column.all.map fun c => cellText (classOf c) (attributesOf c) (contentText r c)),
    "</tr>\n"]

section Text

variable (env : Bindings) (r : SuiteListRow)

/-- What a cell writes has its class and its content in it. -/
theorem render_cell (source attributes styleClass content : String) (nodes : List Node)
    (hclass : (operandOf ["row", source]).value? env = some (.text styleClass))
    (hcontent : renderNodes env nodes = some content) :
    renderNodes env (cell source attributes nodes)
      = some (cellText styleClass attributes content) := by
  have hfront : renderNodes env
      [.text "  <td class=\"", plain ["row", source], .text "\"", .text attributes, .text ">"]
      = some (String.join ["  <td class=\"", styleClass, "\"", attributes, ">"]) := by
    refine renderNodes_of_writes _ _ _ ?_
    simp only [writes_cons, writes_nil, render_text, true_and, and_true]
    exact render_plain _ _ _ hclass
  have hback : renderNodes env [.text "</td>\n"] = some "</td>\n" :=
    renderNodes_singleton _ _ _ (render_text _ _)
  rw [cell, renderNodes_of_append _ _ _ _ _
    (renderNodes_of_append _ _ _ _ _ hfront hcontent) hback]
  simp only [cellText, String.join_cons, String.join_nil, String.append_assoc, String.append_empty]

theorem render_number (name : String) (v : Value)
    (h : (operandOf ["row", name]).value? env = some v) :
    renderNodes env (numberNodes name) = some (numberText v) := by
  refine renderNodes_of_writes _ _ _ ?_
  simp only [numberNodes, writes_cons, writes_nil, render_text, true_and, and_true]
  exact render_plain _ _ _ h

theorem render_content (c : Column) :
    renderNodes (("row", r.value) :: env) (contentNodes c) = some (contentText r c) := by
  cases c with
  | name =>
      -- A name is a link if the suite has an address, and the word behind it is there for an open
      -- suite.
      have hlink : ∀ url ∈ r.url, renderNodes (("row", r.value) :: env)
          [.text "<a href=\"", escaped ["row", "url"], .text "\">", escaped ["row", "name"],
            .text "</a>"]
          = some (String.join ["<a href=\"", Markup.escape url, "\">", Markup.escape r.name,
            "</a>"]) := by
        intro url hurl
        have hvalue : (operandOf ["row", "url"]).value? (("row", r.value) :: env)
            = some (.maybe r.url) := rfl
        rw [hurl] at hvalue
        refine renderNodes_of_writes _ _ _ ?_
        simp only [writes_cons, writes_nil, render_text, true_and, and_true]
        exact ⟨render_escaped _ _ url hvalue, render_escaped _ _ _ rfl⟩
      have hopen : renderNodes (("row", r.value) :: env) [.text " (incomplete)"]
          = some " (incomplete)" :=
        renderNodes_singleton _ _ _ (render_text _ _)
      refine renderNodes_of_writes _ _ _ ?_
      simp only [contentNodes, writes_cons, writes_nil, and_true]
      exact ⟨render_whenMaybe _ _ _ _ r.url _ _ rfl hlink
          (renderNodes_singleton _ _ _ (render_escaped _ _ _ rfl)),
        render_whenFlag _ _ _ _ r.isIncomplete _ _ rfl hopen (by rw [renderNodes])⟩
  | elapsed => exact render_number _ _ (.text r.elapsed) rfl
  | passing => exact render_number _ _ _ rfl
  | failing => exact render_number _ _ _ rfl
  | skipped => exact render_number _ _ _ rfl
  | blacklisted => exact render_number _ _ _ rfl
  | long => exact render_number _ _ _ rfl
  | killed => exact render_number _ _ _ rfl
  | status => exact renderNodes_singleton _ _ _ (render_plain _ _ (.text r.status) rfl)
  | total => exact render_number _ _ (.text r.total) rfl

theorem render_row :
    renderNodes (("row", r.value) :: env) rowNodes = some (rowText r (classText r.classes)) := by
  have hcells := renderNodes_flatMap (("row", r.value) :: env)
    (fun c => cell (sourceOf c) (attributesOf c) (contentNodes c))
    (fun c => cellText (classText r.classes c) (attributesOf c) (contentText r c)) Column.all
    (fun c _ => render_cell _ _ _ _ _ _ (by cases c <;> rfl) (render_content env r c))
  have hfront : renderNodes (("row", r.value) :: env) [.text "<tr>\n"] = some "<tr>\n" :=
    renderNodes_singleton _ _ _ (render_text _ _)
  have hback : renderNodes (("row", r.value) :: env) [.text "</tr>\n"] = some "</tr>\n" :=
    renderNodes_singleton _ _ _ (render_text _ _)
  rw [rowNodes_eq, renderNodes_of_append _ _ _ _ _
    (renderNodes_of_append _ _ _ _ _ hfront hcells) hback]
  simp only [rowText, String.join_cons, String.join_nil, String.append_assoc, String.append_empty]

end Text

/-- What is written in front of the rows. -/
def headTexts : List String :=
  ["<table width=\"100%\" cellspacing=\"0\" cellpadding=\"3\">\n", "<tr>\n",
    "  <td nowrap width=\"40%\"><u>Suite</u></td>\n",
    "  <td nowrap align=\"right\"><u>Time</u></td>\n",
    "  <td nowrap align=\"right\"><u>Pass</u></td>\n",
    "  <td nowrap align=\"right\"><u>Fail</u></td>\n",
    "  <td nowrap align=\"right\"><u>Skip</u></td>\n",
    "  <td nowrap align=\"right\"><u>Blacklist</u></td>\n",
    "  <td nowrap align=\"right\"><u>Long</u></td>\n",
    "  <td nowrap align=\"right\"><u>Killed</u></td>\n",
    "  <td nowrap align=\"center\"><u>Status</u></td>\n",
    "  <td nowrap align=\"right\"><u>Total</u></td>\n", "</tr>\n"]

/-- A page with a class for each of the cells. -/
def pageText (p : SuiteListPage) (classOf : SuiteSummary → Column → String) : String :=
  String.join (headTexts ++ [
    String.join (p.suites.map fun s => rowText (p.row s) (classOf s)),
    if p.suites.isEmpty then noResultsLine "10" else "", "</table>\n"])

/-- The class that a cell of a page should be in. -/
def ruled (p : SuiteListPage) (s : SuiteSummary) : Column → String :=
  ruledClass s.totals p.criteria

/-- The class that a cell of a page is in. -/
def shown (p : SuiteListPage) (s : SuiteSummary) (c : Column) : String :=
  p.ruled s (if c = .killed then .long else c)

variable (p : SuiteListPage)

theorem render_page : p.render = some (p.pageText p.shown) := by
  have hrows := render_forEach p.bindings "row" ["rows"] rowNodes p.rows SuiteListRow.value
    (fun r => rowText r (classText r.classes)) rfl fun r _ => render_row p.bindings r
  have hclasses : p.rows.map (fun r => rowText r (classText r.classes))
      = p.suites.map fun s => rowText (p.row s) (p.shown s) := by
    have hshown : ∀ s, classText (p.row s).classes = p.shown s :=
      fun s => funext fun c => classText_eq s p.criteria c
    simp only [rows, List.map_map, Function.comp_def, hshown]
  rw [hclasses] at hrows
  have hnone := render_noResults p.bindings "10" (p.rows.map SuiteListRow.value).isEmpty rfl
  have hempty : (p.rows.map SuiteListRow.value).isEmpty = p.suites.isEmpty := by
    rw [List.isEmpty_map, rows, List.isEmpty_map]
  rw [hempty] at hnone
  refine renderNodes_of_writes _ _ _ ?_
  simp only [template, headTexts, List.cons_append, List.nil_append, writes_cons, writes_nil,
    render_text, true_and, and_true]
  exact ⟨hrows, hnone⟩

/-! ### Wrong classes make a page longer -/

/-- No cell is in a shorter class than it should be. -/
theorem length_ruled_le (s : SuiteSummary) (c : Column) :
    (p.ruled s c).length ≤ (p.shown s c).length := by
  by_cases hc : c = .killed
  · subst hc
    rw [shown, if_pos rfl, ruled, ruledClass_unmarked _ _ .killed (by decide)]
    by_cases h : LongMarked s.totals p.criteria
    · exact (ruledClass_long_of_marked _ _ h).le
    · rw [ruledClass_long_of_not_marked _ _ h]
  · rw [shown, if_neg hc]

/-- The column of killed tests is in the class of the row as long as that of long tests is. -/
theorem shown_killed_iff (s : SuiteSummary) :
    p.shown s .killed = ruledRow s.totals p.criteria ↔ ¬ LongMarked s.totals p.criteria := by
  rw [shown, if_pos rfl, ruled]
  refine ⟨fun h hmarked => ?_, ruledClass_long_of_not_marked _ _⟩
  have hlonger := ruledClass_long_of_marked _ _ hmarked
  rw [h] at hlonger
  exact lt_irrefl _ hlonger

section Length

variable (r : SuiteListRow) (f g : Column → String)

theorem length_cellText (styleClass attributes content : String) :
    (cellText styleClass attributes content).length
      = styleClass.length + (cellText "" attributes content).length := by
  simp only [cellText, String.length_join, List.map_cons, List.sum_cons]
  have hnone : "".length = 0 := rfl
  omega

theorem length_rowText :
    (rowText r f).length = "<tr>\n".length
      + (Column.all.map fun c =>
          (f c).length + (cellText "" (attributesOf c) (contentText r c)).length).sum
      + "</tr>\n".length := by
  have hcell : ∀ c, (cellText (f c) (attributesOf c) (contentText r c)).length
      = (f c).length + (cellText "" (attributesOf c) (contentText r c)).length :=
    fun c => length_cellText _ _ _
  simp only [rowText, String.length_join, List.map_cons, List.map_nil, List.sum_cons, List.sum_nil,
    List.map_map, Function.comp_def, hcell, Nat.add_zero, Nat.add_assoc]

/-- Shorter classes make a shorter row. -/
theorem length_rowText_le (h : ∀ c, (f c).length ≤ (g c).length) :
    (rowText r f).length ≤ (rowText r g).length := by
  have hcells := List.sum_le_sum fun c (_ : c ∈ Column.all) =>
    Nat.add_le_add_right (h c) (cellText "" (attributesOf c) (contentText r c)).length
  rw [length_rowText, length_rowText]
  omega

/-- A row is shorter if one of its classes is and no other is longer. -/
theorem length_rowText_lt (h : ∀ c, (f c).length ≤ (g c).length) (c : Column)
    (hc : (f c).length < (g c).length) : (rowText r f).length < (rowText r g).length := by
  have hmem : c ∈ Column.all := by cases c <;> decide
  have hcells := List.sum_lt_sum
    (fun c => (f c).length + (cellText "" (attributesOf c) (contentText r c)).length)
    (fun c => (g c).length + (cellText "" (attributesOf c) (contentText r c)).length)
    (fun c (_ : c ∈ Column.all) => Nat.add_le_add_right (h c) _)
    ⟨c, hmem, Nat.add_lt_add_right hc _⟩
  rw [length_rowText, length_rowText]
  omega

end Length

/-- A page that should be in other classes is longer than it should be. -/
theorem length_pageText_lt (s : SuiteSummary) (hs : s ∈ p.suites)
    (h : LongMarked s.totals p.criteria) :
    (p.pageText p.ruled).length < (p.pageText p.shown).length := by
  have hwrong : (p.ruled s .killed).length < (p.shown s .killed).length := by
    rw [ruled, ruledClass_unmarked _ _ .killed (by decide), shown, if_pos rfl, ruled]
    exact ruledClass_long_of_marked _ _ h
  have hrows := List.sum_lt_sum
    (fun s => (rowText (p.row s) (p.ruled s)).length)
    (fun s => (rowText (p.row s) (p.shown s)).length)
    (fun s (_ : s ∈ p.suites) => length_rowText_le (p.row s) _ _ (p.length_ruled_le s))
    ⟨s, hs, length_rowText_lt (p.row s) _ _ (p.length_ruled_le s) .killed hwrong⟩
  simp only [pageText, String.length_join, List.map_append, List.sum_append, List.map_cons,
    List.sum_cons, List.map_map, Function.comp_def]
  omega

/-- The page is a text made from a class for each cell. Every cell but that of killed tests is in
    the class that the rules give it, and the cells that no rule marks are in that of the row; the
    cell of killed tests is in the class of the long ones, and so in that of the row as long as
    these are not marked. The page is as the rules have it if no line marks its long tests. -/
theorem render_classes :
    p.render = some (p.pageText p.shown) ∧
    (∀ s, ∀ c, c ≠ .killed → p.shown s c = p.ruled s c) ∧
    (∀ s, ∀ c ∈ [Column.name, .elapsed, .blacklisted, .status],
      p.shown s c = ruledRow s.totals p.criteria) ∧
    (∀ s, p.shown s .killed = p.ruled s .long ∧
      p.ruled s .killed = ruledRow s.totals p.criteria ∧
      (p.shown s .killed = p.ruled s .killed ↔ ¬ LongMarked s.totals p.criteria)) ∧
    (p.render = some (p.pageText p.ruled) ↔ ∀ s ∈ p.suites, ¬ LongMarked s.totals p.criteria) := by
  have hkilled : ∀ s, p.ruled s .killed = ruledRow s.totals p.criteria :=
    fun s => ruledClass_unmarked _ _ .killed (by decide)
  refine ⟨p.render_page, fun s c hc => congrArg (p.ruled s) (if_neg hc),
    fun s c hc => ?_, fun s => ⟨rfl, hkilled s, ?_⟩, ?_, fun h => ?_⟩
  · have hother : c ≠ .killed ∧ c ∈ Column.unmarked := by
      revert c
      decide
    rw [shown, if_neg hother.1]
    exact ruledClass_unmarked _ _ c hother.2
  · rw [hkilled, shown_killed_iff]
  · intro hrender s hs hmarked
    -- The page is longer than the one that the rules have, so it is not the same.
    have hsame : p.pageText p.shown = p.pageText p.ruled :=
      Option.some.inj (p.render_page.symm.trans hrender)
    have hlonger := p.length_pageText_lt s hs hmarked
    rw [hsame] at hlonger
    exact lt_irrefl _ hlonger
  · rw [render_page]
    have hrows : ∀ s ∈ p.suites, p.shown s = p.ruled s := by
      intro s hs
      funext c
      by_cases hc : c = .killed
      · subst hc
        rw [hkilled, shown_killed_iff]
        exact h s hs
      · rw [shown, if_neg hc]
    have htexts : p.suites.map (fun s => rowText (p.row s) (p.shown s))
        = p.suites.map fun s => rowText (p.row s) (p.ruled s) :=
      List.map_congr_left fun s hs => congrArg (rowText (p.row s)) (hrows s hs)
    rw [pageText, htexts, pageText]

/-- A suite of one test that passed and was long. Its row is marked for the time, and the cell of
    killed tests is marked with the cell of long ones, though no rule marks it. -/
theorem killed_misplaced :
    let start : Instant := ⟨0, 0, 0, by decide, by decide⟩
    let finish : Instant := ⟨0, 400, 0, by decide, by decide⟩
    let test : TestRecord := { id := 1, displayName := "login", status := .pass
                               groupName := some "smoke", start := some start
                               finish := some finish }
    let p := ofTests { scheme := "http", path := "/suites" } [test] default
    p.criteria = .failing ∧
    (p.suites.map fun s => (s.totals.isIncomplete, s.totals.failing, s.totals.long))
      = [(false, 0, 1)] ∧
    (∀ s ∈ p.suites, p.ruled s .name = "timingRow" ∧ p.ruled s .killed = "timingRow" ∧
      p.shown s .killed = "timingColumn") ∧
    p.render ≠ some (p.pageText p.ruled) := by
  intro start finish test p
  refine ⟨rfl, by decide +kernel, by decide +kernel, fun hrender => ?_⟩
  -- If both pages were one text, they would have one length.
  have hmarked : ∃ s ∈ p.suites, LongMarked s.totals p.criteria := by decide +kernel
  rcases hmarked with ⟨s, hs, h⟩
  have hlonger := p.length_pageText_lt s hs h
  rw [Option.some.inj (p.render_page.symm.trans hrender)] at hlonger
  exact lt_irrefl _ hlonger

end SuiteListPage

end RunReport
