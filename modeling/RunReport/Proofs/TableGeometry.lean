import RunReport.Proofs.HistoryRows
import RunReport.Proofs.Listing

/-!
# The Geometry of the List of Tests

Why the rows of the table fit together, and what the page makes of them.

The first row of a group has two cells that reach down over all its rows, and the other rows leave
these columns out. Nothing in a browser checks that. If the first row promised one row more than
there are, the next group would be pushed out of its columns, and if a group had no row its number
would be missing. How far the cells reach is taken from the rows that are shown, which in a
collapsed list are fewer than the records, and the count beside the name is taken from the records.

`IsBlock` says what the rows of one group have to be, and `isBlock_groupRows` that they are, for any
group that has a record. A list starts with groups that have one, because a group is opened by its
first record, and a sort or a filter makes no new groups (`inhabited_of_reachable`). So every group
of a list has its block, and whatever is true of each block is true of the table
(`sum_rowspan_flatten`).

`render_blocks` follows the rows into the page: they are written block by block, and a row has the
cells of its group if it is the first.

## Main definitions

* `TestListPage.Reachable`: A list as it can come about.
* `TestListPage.blocks`: The rows of a list, group by group.
* `TestListPage.IsBlock`: What the rows of a group have to be. Their classes are those that
  `Listing.styled` has for a number and a highlight.
* `TestListRow.text`, `TestListPage.pageText`: A row as it is written, and a page of blocks.

## Theorems

* `inhabited_of_reachable`, `reachable_testList`: Every group has a record, also in a report.
* `length_shown`: How many records are shown of a group.
* `of_mem_groupRows`: What the rows of a group have in common.
* `isBlock_groupRows`: The rows of a group with a record are a block.
* `rows_eq_flatten`, `blocks_forall₂`: The rows of a list are its blocks.
* `filter_isFirst`, `sum_rowspan_flatten`: The first rows reach over all rows.
* `rows_eq_nil_iff`: A list without rows has no groups.
* `render_row`, `render_blocks`: What is written for a row, and for a page.
* `rows_blocks`: The rows of a list are the blocks of its groups.
* `rows_blocks_table`: Two groups with three records.
-/

namespace RunReport

open Template Page

namespace TestListPage

/-- A list as it can come about: from some records, by any sorts and filters, with any highlights,
    collapsed or not. -/
inductive Reachable : TestListPage → Prop
  | ofTests (formUrl : Url) (tests : List TestRecord) : Reachable (ofTests formUrl tests)
  | sorted (cmp : TestGroup → TestGroup → Ordering) (p : TestListPage) (h : Reachable p) :
      Reachable (p.sorted cmp)
  | filtered (f : NameFilter) (p : TestListPage) (h : Reachable p) : Reachable (p.filtered f)
  | highlighted (highlighter : Highlighter) (p : TestListPage) (h : Reachable p) :
      Reachable { p with highlighter }
  | collapsed (isCollapsed : Bool) (p : TestListPage) (h : Reachable p) :
      Reachable { p with isCollapsed }

/-- Every group of a list has a record. Groups come up with their first records, and no step makes a
    new one. -/
theorem inhabited_of_reachable (p : TestListPage) (h : Reachable p) :
    ∀ g ∈ p.groups, g.tests ≠ [] := by
  induction h with
  | ofTests formUrl tests => exact Listing.ofTests_inhabited tests
  | sorted cmp p _ ih => exact fun g hg => ih g ((TestGroup.sorted_perm cmp p.groups).mem_iff.mp hg)
  | filtered f p _ ih => exact fun g hg => ih g (List.mem_filter.mp hg).1
  | highlighted highlighter p _ ih => exact ih
  | collapsed isCollapsed p _ ih => exact ih

/-- The list of a report is such a list. -/
theorem reachable_testList (m : Manifest) (c : Criteria) (tests : List TestRecord) :
    Reachable (Report.testList m c tests) := by
  have hsorted := Reachable.sorted (c.sort.getD m.groupOrder).compare _
    (Reachable.ofTests m.formUrl tests)
  unfold Report.testList
  cases c.filter with
  | none =>
      exact .highlighted (Report.highlighter m c) _ (.collapsed c.isCollapsed _ hsorted)
  | some f =>
      have hfiltered := Reachable.filtered f _ hsorted
      exact .highlighted (Report.highlighter m c) _ (.collapsed c.isCollapsed _ hfiltered)

/-- The rows of a list, group by group. -/
def blocks (p : TestListPage) : List (List TestListRow) :=
  (p.groups.zipIdx 1).map fun g => p.groupRows g.2 g.1

/-- Some rows are the block of a group with a number. There is a row for each record that is shown,
    and the first of them has the cells of the group, which reach down over all. They count the
    records of the group, shown or not. A row has the odd or the even shade of the number wherever
    it has no highlight. -/
structure IsBlock (p : TestListPage) (number : Nat) (g : TestGroup) (rows : List TestListRow) :
    Prop where
  inhabited : rows ≠ []
  length : rows.length = if p.isCollapsed then 1 else g.tests.length
  isFirst : ∀ (place : Nat) (r : TestListRow), rows[place]? = some r → (r.isFirst ↔ place = 0)
  numbered : ∀ r ∈ rows, r.number = number
  spanned : ∀ r ∈ rows, r.rowspan = rows.length
  counted : ∀ r ∈ rows, r.count = g.tests.length
  named : ∀ r ∈ rows, r.group = g.name
  shaded : List.Forall₂ (fun t r =>
    r.rowClass = (if number % 2 = 1 then "shadeOddRow" else "shadeEvenRow") ∧
    r.statusClass = Listing.styled number (p.highlighter.classify t).status ∧
    r.timeClass = Listing.styled number (p.highlighter.classify t).duration) (p.shown g) rows

section Blocks

variable (p : TestListPage)

/-- A group with a record shows one record if the list is collapsed, and all of them if not. -/
theorem length_shown (g : TestGroup) (hg : g.tests ≠ []) :
    (p.shown g).length = if p.isCollapsed then 1 else g.tests.length := by
  unfold shown
  cases p.isCollapsed with
  | false => rfl
  | true =>
      rcases TestRecord.first?_isSome g.tests hg with ⟨t, ht⟩
      simp only [if_true, ht, Option.toList_some, List.length_singleton]

/-- The rows of a group have its number, its name and its count, and reach over what is shown. -/
theorem of_mem_groupRows (number : Nat) (g : TestGroup) (r : TestListRow)
    (hr : r ∈ p.groupRows number g) :
    r.number = number ∧ r.rowspan = (p.shown g).length ∧ r.count = g.tests.length ∧
      r.group = g.name := by
  rw [Listing.groupRows_eq] at hr
  rcases List.mem_mapIdx.mp hr with ⟨place, hplace, rfl⟩
  exact ⟨rfl, rfl, rfl, rfl⟩

/-- The rows of a group that has a record are its block. -/
theorem isBlock_groupRows (number : Nat) (g : TestGroup) (hg : g.tests ≠ []) :
    p.IsBlock number g (p.groupRows number g) := by
  have hshown := p.length_shown g hg
  have hlength : (p.groupRows number g).length = (p.shown g).length := by
    rw [Listing.groupRows_eq, List.length_mapIdx]
  have hcells := p.of_mem_groupRows number g
  constructor
  case inhabited =>
    have hpos : 0 < g.tests.length := List.length_pos_iff.mpr hg
    rw [← List.length_pos_iff, hlength, hshown]
    split <;> omega
  case length => rw [hlength, hshown]
  case isFirst =>
    intro place r hr
    rw [Listing.groupRows_eq, List.getElem?_mapIdx] at hr
    rcases Option.map_eq_some_iff.mp hr with ⟨t, -, rfl⟩
    exact beq_iff_eq
  case numbered => exact fun r hr => (hcells r hr).1
  case spanned => exact fun r hr => (hcells r hr).2.1.trans hlength.symm
  case counted => exact fun r hr => (hcells r hr).2.2.1
  case named => exact fun r hr => (hcells r hr).2.2.2
  case shaded =>
    rw [Listing.groupRows_eq]
    -- The place of a row decides only whether it is the first, and no class depends on that.
    refine List.forall₂_iff_get.mpr ⟨(List.length_mapIdx).symm, fun place h h' => ?_⟩
    simp only [List.get_eq_getElem, List.getElem_mapIdx, row, Listing.shade_eq_styled,
      Listing.columnClass_eq_styled]
    exact ⟨rfl, trivial, trivial⟩

/-- The rows of a list are its blocks, one after another. -/
theorem rows_eq_flatten : p.rows = p.blocks.flatten := by
  rw [rows, Listing.rowsFrom_eq, blocks, List.flatMap_def]

/-- Each group has its block, in the place of the group and with its number. -/
theorem blocks_forall₂ (h : Reachable p) :
    List.Forall₂ (fun g rows => p.IsBlock g.2 g.1 rows) (p.groups.zipIdx 1) p.blocks := by
  rw [blocks, List.forall₂_map_right_iff, List.forall₂_same]
  intro g hg
  exact p.isBlock_groupRows g.2 g.1 (inhabited_of_reachable p h g.1 (List.fst_mem_of_mem_zipIdx hg))

/-- A block has one first row, and it reaches over the whole block. -/
theorem filter_isFirst (number : Nat) (g : TestGroup) (rows : List TestListRow)
    (h : p.IsBlock number g rows) :
    (rows.filter (·.isFirst)).map (·.rowspan) = [rows.length] := by
  rcases List.exists_cons_of_ne_nil h.inhabited with ⟨r, rest, rfl⟩
  have hfirst : r.isFirst = true := (h.isFirst 0 r rfl).mpr rfl
  have hrest : rest.filter (·.isFirst) = [] := by
    refine List.filter_eq_nil_iff.mpr fun r' hr' hr'first => ?_
    rcases List.getElem?_of_mem hr' with ⟨place, hplace⟩
    exact Nat.succ_ne_zero place ((h.isFirst (place + 1) r' hplace).mp hr'first)
  rw [List.filter_cons_of_pos hfirst, hrest, List.map_singleton,
    h.spanned r List.mem_cons_self]

/-- The first rows of some blocks reach over all their rows. -/
theorem sum_rowspan_flatten (groups : List (TestGroup × Nat)) (blocks : List (List TestListRow))
    (h : List.Forall₂ (fun g rows => p.IsBlock g.2 g.1 rows) groups blocks) :
    ((blocks.flatten.filter (·.isFirst)).map (·.rowspan)).sum = blocks.flatten.length := by
  induction h with
  | nil => rfl
  | @cons g rows groups blocks hrows _ ih =>
      rw [List.flatten_cons, List.filter_append, List.map_append, List.sum_append, ih,
        p.filter_isFirst g.2 g.1 rows hrows, List.sum_singleton, List.length_append]

/-- A list without rows has no groups. -/
theorem rows_eq_nil_iff (h : Reachable p) : p.rows = [] ↔ p.groups = [] := by
  constructor
  · intro hrows
    by_contra hne
    rcases List.exists_cons_of_ne_nil hne with ⟨g, gs, hgs⟩
    have hg : g.tests ≠ [] := inhabited_of_reachable p h g (hgs ▸ List.mem_cons_self)
    rw [rows, hgs, rowsFrom, List.append_eq_nil_iff] at hrows
    exact (p.isBlock_groupRows 1 g hg).inhabited hrows.1
  · intro hgroups
    rw [rows, hgroups, rowsFrom]

end Blocks

end TestListPage

/-! ### What is written -/

/-- The cells for the number and the name of a group. -/
def TestListRow.groupText (r : TestListRow) : String :=
  String.join ["  <td class=\"", r.rowClass, "\" align=\"right\" rowspan=\"",
    (Value.count r.rowspan).asText, "\">", (Value.count r.number).asText, "</td>\n",
    "  <td class=\"", r.rowClass, "\" rowspan=\"", (Value.count r.rowspan).asText, "\">",
    Markup.escape r.group,
    if 1 < r.count then
      String.join ["&nbsp;&nbsp;(", (Value.count r.count).asText, " tests)"]
    else "",
    "</td>\n"]

/-- A row as it is written. The first row of a group has the cells of the group in front. -/
def TestListRow.text (r : TestListRow) : String :=
  String.join ["<tr>\n", if r.isFirst then r.groupText else "",
    "  <td class=\"", r.timeClass, "\"", " align=\"right\"", ">", r.elapsed, "</td>\n",
    "  <td class=\"", r.statusClass, "\"", " align=\"center\"", ">", "<a href=\"",
    Markup.escape r.url, "\">", r.status, "</a>", "</td>\n", "</tr>\n"]

/-- A page with some blocks of rows, one after another. -/
def TestListPage.pageText (formUrl : Url) (blocks : List (List TestListRow)) : String :=
  String.join ["<form action=\"", Markup.escape formUrl.text, "\">\n",
    "<table width=\"100%\" cellspacing=\"0\" cellpadding=\"3\">\n", "<tr>\n",
    "  <td nowrap width=\"2%\">&nbsp;</td>\n", "  <td nowrap width=\"80%\"><u>Test</u></td>\n",
    "  <td nowrap width=\"10%\" align=\"right\"><u>Time</u></td>\n",
    "  <td nowrap width=\"10%\" align=\"center\"><u>Status</u></td>\n", "</tr>\n",
    String.join (blocks.map fun rows => String.join (rows.map TestListRow.text)),
    if blocks.flatten.isEmpty then noResultsLine "4" else "", "</table>\n", "</form>\n"]

namespace TestListPage

section Text

variable (env : Bindings) (r : TestListRow)

theorem render_group :
    renderNodes (("row", r.value) :: env) groupCells = some r.groupText := by
  have htests : renderNodes (("row", r.value) :: env)
      [.text "&nbsp;&nbsp;(", plain ["row", "count"], .text " tests)"]
      = some (String.join ["&nbsp;&nbsp;(", (Value.count r.count).asText, " tests)"]) := by
    refine renderNodes_of_writes _ _ _ ?_
    simp only [writes_cons, writes_nil, render_text, true_and, and_true]
    exact render_plain _ _ _ rfl
  -- A count that is too great for a value is still above one.
  have hcount : (1 : Int) < min (r.count : Int) Value.greatest ↔ 1 < r.count := by
    have hgreatest : 1 < Value.greatest := by decide
    omega
  have hmany := render_whenAbove (("row", r.value) :: env) ["row", "count"] 1 _ _ _ rfl htests
  rw [if_congr hcount rfl rfl] at hmany
  refine renderNodes_of_writes _ _ _ ?_
  simp only [groupCells, writes_cons, writes_nil, render_text, true_and, and_true]
  exact ⟨render_plain _ _ (.text r.rowClass) rfl, render_plain _ _ _ rfl, render_plain _ _ _ rfl,
    render_plain _ _ (.text r.rowClass) rfl, render_plain _ _ _ rfl, render_escaped _ _ _ rfl,
    hmany⟩

theorem render_row : renderNodes (("row", r.value) :: env) rowNodes = some r.text := by
  have hgroup := render_whenFlag (("row", r.value) :: env) ["row", "first"] groupCells []
    r.isFirst _ _ rfl (render_group env r) (by rw [renderNodes])
  refine renderNodes_of_writes _ _ _ ?_
  simp only [rowNodes, cell, List.cons_append, List.nil_append, writes_cons, writes_nil,
    render_text, true_and, and_true]
  exact ⟨hgroup, render_plain _ _ (.text r.timeClass) rfl, render_plain _ _ (.text r.elapsed) rfl,
    render_plain _ _ (.text r.statusClass) rfl, render_escaped _ _ _ rfl,
    render_plain _ _ (.text r.status) rfl⟩

end Text

/-- A page is written block by block. -/
theorem render_blocks (p : TestListPage) : p.render = some (pageText p.formUrl p.blocks) := by
  have hrows := render_forEach p.bindings "row" ["rows"] rowNodes p.rows TestListRow.value
    TestListRow.text rfl fun r _ => render_row p.bindings r
  -- The template goes through the rows, and the page is said block by block.
  have hjoin : String.join (p.rows.map TestListRow.text)
      = String.join (p.blocks.map fun rows => String.join (rows.map TestListRow.text)) := by
    rw [rows_eq_flatten]
    induction p.blocks with
    | nil => rfl
    | cons rows blocks ih =>
        rw [List.flatten_cons, List.map_append, String.join_append, ih, List.map_cons,
          String.join_cons]
  rw [hjoin] at hrows
  have hempty : (p.rows.map TestListRow.value).isEmpty = p.blocks.flatten.isEmpty := by
    rw [List.isEmpty_map, rows_eq_flatten]
  have hnone := render_noResults p.bindings "4" (p.rows.map TestListRow.value).isEmpty rfl
  rw [hempty] at hnone
  refine renderNodes_of_writes _ _ _ ?_
  simp only [template, formStart, List.cons_append, List.nil_append, writes_cons, writes_nil,
    render_text, true_and, and_true]
  exact ⟨render_escaped _ _ _ rfl, hrows, hnone⟩

/-- The list of a report is one that can come about. The rows of any such list are blocks, one for
    each group in its place and with its number. The first rows reach over all rows of the table,
    the page says that there are no results if there is no group, and the blocks are written one
    after another. -/
theorem rows_blocks :
    (∀ m c tests, Reachable (Report.testList m c tests)) ∧
    ∀ p : TestListPage, Reachable p →
      ∃ blocks : List (List TestListRow), p.rows = blocks.flatten ∧
        List.Forall₂ (fun g rows => p.IsBlock g.2 g.1 rows) (p.groups.zipIdx 1) blocks ∧
        ((p.rows.filter (·.isFirst)).map (·.rowspan)).sum = p.rows.length ∧
        ((operandOf ["no_results"]).value? p.bindings = some (.bool true) ↔ p.groups = []) ∧
        p.render = some (pageText p.formUrl blocks) := by
  refine ⟨reachable_testList, fun p h => ?_⟩
  have hblocks := p.blocks_forall₂ h
  refine ⟨p.blocks, p.rows_eq_flatten, hblocks, ?_, ?_, p.render_blocks⟩
  · rw [rows_eq_flatten]
    exact p.sum_rowspan_flatten _ _ hblocks
  · have hflag : (operandOf ["no_results"]).value? p.bindings
        = some (.bool (p.rows.map TestListRow.value).isEmpty) := rfl
    rw [hflag, ← p.rows_eq_nil_iff h]
    simp

/-- Two groups with three records, of which a collapsed list shows two. -/
theorem rows_blocks_table :
    let tests : List TestRecord := [
      { id := 1, displayName := "login", status := .pass },
      { id := 2, displayName := "checkout", status := .fail },
      { id := 3, displayName := "login", status := .error }]
    let start := ofTests { scheme := "http", path := "/tests" } tests
    let short : TestListPage := { start with isCollapsed := true }
    let cells := fun r : TestListRow =>
      (r.isFirst, r.number, r.rowspan, r.count, r.rowClass, r.statusClass)
    Reachable start ∧ Reachable short ∧
    start.rows.map cells = [
      (true, 1, 2, 2, "shadeOddRow", "shadeOddRow"),
      (false, 1, 2, 2, "shadeOddRow", "errorColumn"),
      (true, 2, 1, 1, "shadeEvenRow", "errorColumn")] ∧
    short.rows.map cells = [
      (true, 1, 1, 2, "shadeOddRow", "errorColumn"),
      (true, 2, 1, 1, "shadeEvenRow", "errorColumn")] ∧
    ∀ p ∈ [start, short], ∃ first second : List TestListRow, p.rows = first ++ second ∧
      p.IsBlock 1 ⟨"login", [tests[0], tests[2]]⟩ first ∧
      p.IsBlock 2 ⟨"checkout", [tests[1]]⟩ second ∧
      ((p.rows.filter (·.isFirst)).map (·.rowspan)).sum = p.rows.length ∧
      p.render = some (pageText p.formUrl [first, second]) := by
  intro tests start short cells
  have hstart : Reachable start := .ofTests _ tests
  have hshort : Reachable short := .collapsed true start hstart
  refine ⟨hstart, hshort, by decide +kernel, by decide +kernel, fun p hp => ?_⟩
  have hp' : Reachable p ∧ p.groups = start.groups := by
    rcases List.mem_pair.mp hp with rfl | rfl
    · exact ⟨hstart, rfl⟩
    · exact ⟨hshort, rfl⟩
  have hgroups : p.groups.zipIdx 1
      = [(⟨"login", [tests[0], tests[2]]⟩, 1), (⟨"checkout", [tests[1]]⟩, 2)] := by
    rw [hp'.2]
    decide +kernel
  rcases rows_blocks.2 p hp'.1 with ⟨blocks, hrows, hblocks, hsum, -, hrender⟩
  rw [hgroups] at hblocks
  -- There are as many blocks as groups.
  rcases hblocks with _ | ⟨hfirst, _ | ⟨hsecond, _ | _⟩⟩
  refine ⟨_, _, ?_, hfirst, hsecond, hsum, hrender⟩
  rw [hrows, List.flatten_cons, List.flatten_singleton]

end TestListPage

end RunReport
