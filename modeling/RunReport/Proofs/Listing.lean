import RunReport.Libraries
import RunReport.Proofs.Bucket
import RunReport.Proofs.Criteria
import RunReport.Proofs.Order

/-!
# What the List of Tests Shows

The list of tests from the query to the rows, compared with a description of what it should show.

The page is made in steps: records are sorted into groups, the groups are put in order and
filtered, and each group gives one or more rows. None of the steps says which records are on the
page in the end, or where. `Listing.Shows` does, and mentions none of the steps. It speaks of
blocks, a display name with the records shown for it, and says of a list of blocks which names it
has, in which order, and which records belong to each. `Listing.rows` numbers the blocks and writes
out their rows.

The names are pinned down by three conditions: which they are, that each is there once, and that
they ascend. The order depends on the records, because a name ranks by its most telling record when
groups are listed by priority, but two different names never rank the same.

`ofList_shows` ties the two together for the whole report, from the workspace to the filled-in
template.

## Main definitions

* `Listing.Block`: A display name with the records shown for it.
* `Listing.executions`: The records of a display name.
* `Listing.Wanted`: A name that the filter in force keeps.
* `Listing.Precedes`: One name stands before another.
* `Listing.Holds`: A block has the records it should have.
* `Listing.styled`: The style class of a cell.
* `Listing.Shows`: A list of blocks is what the list of tests should show.
* `Listing.rows`: The rows of the blocks.
* `Listing.report`: The report on the blocks.
* `Listing.blocksOf`: The blocks of a page.

## Theorems

* `ofTests_eq`: The groups of some records in closed form.
* `ofTests_nodup`, `testList_groups_nodup`: No two groups have the same name.
* `ofTests_inhabited`: Every group has a record.
* `rowsFrom_eq`, `groupRows_eq`: The rows of a page as one list.
* `shade_eq_styled`, `columnClass_eq_styled`: The classes that the page gives its cells.
* `testList_formUrl`: The address of the page is the manifest's.
* `testList_groups`, `mem_testList_groups`: The groups of the page.
* `precedes_of_compare_lt`: A group that compares less has a name that stands before.
* `accepts_iff_wanted`: The filter of the criteria keeps the names that are wanted.
* `holds_shown`: What is shown of a group is what its block should have.
* `testList_shows`: The blocks of the page are those it should show.
* `testList_rows`: The rows of the page are those of its blocks.
* `ofList_eq_report`: The report is the one on the blocks of its page.
* `flatMap_records_perm`: Without a filter and without collapsing every record is shown once.
* `length_rows`: There are as many rows as records in the blocks.
* `ofList_shows`: The list of tests shows what it should.
-/

namespace RunReport

namespace Listing

open TestRecord

/-! ### What should be shown -/

/-- A display name with the records shown for it. -/
structure Block where
  name : String
  records : List TestRecord

/-- The records of a display name, in the order of the file. -/
def executions (tests : List TestRecord) (name : String) : List TestRecord :=
  tests.filter (·.displayName = name)

/-- A name is wanted if there is no filter or the filter in force keeps it. -/
def Wanted [PatternLibrary] (m : Manifest) (q : Query) (name : String) : Prop :=
  ∀ e ∈ Report.filterInForce m q, ∃ f ∈ NameFilter.read? e, f.accepts name

/-- One name stands before another: by the names alone, or by the most telling of their records
    and then by the names. -/
def Precedes (tests : List TestRecord) (a b : String) : GroupOrder → Prop
  | .name => a < b
  | .priority =>
    leastPriority (executions tests a) < leastPriority (executions tests b) ∨
      leastPriority (executions tests a) = leastPriority (executions tests b) ∧ a < b

/-- A block has the records it should have: in a collapsed list the first in the order of records,
    and otherwise all that have its name. -/
def Holds (q : Query) (tests : List TestRecord) (b : Block) : Prop :=
  if Report.CollapseInForce q then
    ∃ r, b.records = [r] ∧ ComesFirst r (executions tests b.name)
  else b.records = executions tests b.name

/-- Some blocks are what a manifest and a query ask to be shown of some records. -/
structure Shows [PatternLibrary] (m : Manifest) (q : Query) (tests : List TestRecord)
    (blocks : List Block) : Prop where
  mem_iff : ∀ name, name ∈ blocks.map Block.name ↔
    name ∈ tests.map TestRecord.displayName ∧ Wanted m q name
  nodup : (blocks.map Block.name).Nodup
  ascending : blocks.Pairwise fun a b => Precedes tests a.name b.name (Report.orderInForce m q)
  holds : ∀ b ∈ blocks, Holds q tests b

/-- The style class of a cell in the rows of a number: that of its highlight, and the odd or the
    even shade if it has none. -/
def styled (number : Nat) : Option Highlight → String
  | some .error => "errorColumn"
  | some .warning => "warningColumn"
  | some .timing => "timingColumn"
  | none => if number % 2 = 1 then "shadeOddRow" else "shadeEvenRow"

/-- The row of a record of a block. The number is that of the block and the place that of the
    record in it. -/
def row (m : Manifest) (q : Query) (tests : List TestRecord) (number : Nat) (b : Block)
    (place : Nat) (t : TestRecord) : TestListRow :=
  let marks := Highlighter.classify ⟨m.longRunning, Report.highlightInForce q⟩ t
  { isFirst := place == 0
    number
    rowspan := b.records.length
    count := (executions tests b.name).length
    group := b.name
    elapsed := Page.elapsedText t
    status := t.status.label
    url := (Page.testLink m.formUrl t).text
    rowClass := styled number none
    statusClass := styled number marks.status
    timeClass := styled number marks.duration }

/-- The rows of all blocks, one for each of their records. The blocks are numbered from one. -/
def rows (m : Manifest) (q : Query) (tests : List TestRecord) (blocks : List Block) :
    List TestListRow :=
  (blocks.zipIdx 1).flatMap fun b => b.1.records.mapIdx (row m q tests b.2 b.1)

/-- The report on some blocks: a note on their number, and the template filled in with their
    rows. -/
def report [TemplateLibrary] (m : Manifest) (q : Query) (tests : List TestRecord)
    (blocks : List Block) : Report :=
  { notes := [Report.counted "Listing" blocks.length "test groups"]
    page := Report.bestEffort TestListPage.template <|
      ("form_url", .text m.formUrl.text) ::
        Page.tableBindings ((rows m q tests blocks).map TestListRow.value) }

/-! ### The rows of a page -/

/-- The groups of some records in closed form. -/
theorem ofTests_eq (tests : List TestRecord) :
    TestGroup.ofTests tests
      = (tests.map displayName).eraseDups.map fun n => ⟨n, executions tests n⟩ := by
  rw [TestGroup.ofTests, Bucket.ofList_eq, List.map_map]
  rfl

/-- The groups of some records have distinct names. -/
theorem ofTests_nodup (tests : List TestRecord) :
    ((TestGroup.ofTests tests).map TestGroup.name).Nodup := by
  rw [ofTests_eq, List.map_map]
  exact (List.map_id _).symm ▸ Bucket.nodup_eraseDups (tests.map displayName)

/-- Every group of some records has one of them. -/
theorem ofTests_inhabited (tests : List TestRecord) :
    ∀ g ∈ TestGroup.ofTests tests, g.tests ≠ [] := by
  intro g hg
  rcases List.mem_map.mp hg with ⟨b, hb, rfl⟩
  exact (Bucket.wellSorted_ofList displayName tests).inhabited b hb

/-- The rows of the groups follow one another, and each group knows its number. -/
theorem rowsFrom_eq (p : TestListPage) (gs : List TestGroup) :
    ∀ n, p.rowsFrom n gs = (gs.zipIdx n).flatMap fun g => p.groupRows g.2 g.1 := by
  induction gs with
  | nil => exact fun n => rfl
  | cons g gs ih =>
      intro n
      rw [TestListPage.rowsFrom, ih, List.zipIdx_cons, List.flatMap_cons]

/-- The rows of a group, the first of them told by its place. -/
theorem groupRows_eq (p : TestListPage) (n : Nat) (g : TestGroup) :
    p.groupRows n g
      = (p.shown g).mapIdx fun i t => p.row n (p.shown g).length g (i == 0) t := by
  unfold TestListPage.groupRows
  cases p.shown g with
  | nil => rfl
  | cons t ts =>
      -- Behind the first row no place is 0.
      rw [List.mapIdx_cons]
      refine congrArg _ (List.ext_getElem ?_ fun i _ _ => ?_)
      · rw [List.length_map, List.length_mapIdx]
      · rw [List.getElem_map, List.getElem_mapIdx]
        rfl

/-- The shade of a group is the odd or the even one. -/
theorem shade_eq_styled (number : Nat) : TestListPage.shade number = styled number none := by
  rw [TestListPage.shade, styled]
  rcases Nat.mod_two_eq_zero_or_one number with h | h
  · rw [if_pos h, if_neg (by omega)]
  · rw [if_neg (by omega), if_pos h]

/-- A cell has the class of its highlight, or the shade if it has none. -/
theorem columnClass_eq_styled (number : Nat) (mark : Option Highlight) :
    (mark.map Highlight.columnClass).getD (styled number none) = styled number mark := by
  cases mark with
  | none => rfl
  | some h => cases h <;> rfl

/-- The blocks of a page: its groups with the records that are shown of them. -/
def blocksOf (p : TestListPage) : List Block :=
  p.groups.map fun g => ⟨g.name, p.shown g⟩

/-- The address of the page is the manifest's. -/
theorem testList_formUrl (m : Manifest) (c : Criteria) (tests : List TestRecord) :
    (Report.testList m c tests).formUrl = m.formUrl := by
  unfold Report.testList
  cases c.filter <;> rfl

/-- The groups of the page are those of the records in the order of the criteria, without those
    that the filter drops. -/
theorem testList_groups (m : Manifest) (c : Criteria) (tests : List TestRecord) :
    (Report.testList m c tests).groups
      = (TestGroup.sorted (c.sort.getD m.groupOrder).compare (TestGroup.ofTests tests)).filter
        fun g => c.filter.all (·.accepts g.name) := by
  unfold Report.testList
  cases c.filter with
  | none =>
      simp only [Option.all_none, List.filter_true]
      rfl
  | some f =>
      simp only [Option.all_some]
      rfl

/-- A group is on the page if it is that of a name of the records and the filter keeps it. -/
theorem mem_testList_groups (m : Manifest) (c : Criteria) (tests : List TestRecord)
    (g : TestGroup) :
    g ∈ (Report.testList m c tests).groups ↔
      g.name ∈ tests.map displayName ∧ g.tests = executions tests g.name ∧
        c.filter.all (·.accepts g.name) := by
  rw [testList_groups, List.mem_filter, (TestGroup.sorted_perm _ _).mem_iff, ofTests_eq,
    List.mem_map]
  constructor
  · rintro ⟨⟨n, hn, rfl⟩, hf⟩
    exact ⟨List.mem_eraseDups.mp hn, rfl, hf⟩
  · rintro ⟨hn, ht, hf⟩
    refine ⟨⟨g.name, List.mem_eraseDups.mpr hn, ?_⟩, hf⟩
    rw [← ht]

/-- No name is on the page twice. -/
theorem testList_groups_nodup (m : Manifest) (c : Criteria) (tests : List TestRecord) :
    ((Report.testList m c tests).groups.map TestGroup.name).Nodup := by
  rw [testList_groups]
  refine List.Nodup.sublist (List.Sublist.map _ List.filter_sublist) ?_
  exact ((TestGroup.sorted_perm _ _).map TestGroup.name).nodup_iff.mpr (ofTests_nodup tests)

/-- There are as many rows as records in the blocks. -/
theorem length_rows (m : Manifest) (q : Query) (tests : List TestRecord) (blocks : List Block) :
    (rows m q tests blocks).length = (blocks.flatMap Block.records).length := by
  have hfst : ((blocks.zipIdx 1).map fun b => b.1.records.length)
      = blocks.map fun b => b.records.length := by
    have hmap := congrArg (List.map fun b : Block => b.records.length)
      (List.zipIdx_map_fst 1 blocks)
    rwa [List.map_map] at hmap
  rw [rows, List.length_flatMap, List.length_flatMap, ← hfst]
  simp only [List.length_mapIdx]

/-! ### The page shows what it should -/

/-- A group with the records of its name that compares less has a name that stands before. -/
theorem precedes_of_compare_lt (tests : List TestRecord) (o : GroupOrder) (a b : TestGroup)
    (ha : a.tests = executions tests a.name) (hb : b.tests = executions tests b.name)
    (h : o.compare a b = .lt) : Precedes tests a.name b.name o := by
  cases o with
  | name => exact (GroupOrder.compare_text_eq_lt a.name b.name).mp h
  | priority =>
      simp only [GroupOrder.compare, TestGroup.status_priority, ha, hb] at h
      unfold Precedes
      rcases Ordering.then_eq_lt.mp h with hlt | ⟨heq, hlt⟩
      · exact Or.inl (Nat.compare_eq_lt.mp hlt)
      · exact Or.inr ⟨Nat.compare_eq_eq.mp heq, (GroupOrder.compare_text_eq_lt _ _).mp hlt⟩

/-- What is shown of a group with the records of its name is what its block should have. -/
theorem holds_shown (q : Query) (tests : List TestRecord) (p : TestListPage) (g : TestGroup)
    (hp : p.isCollapsed = decide (Report.CollapseInForce q))
    (hg : g.tests = executions tests g.name) (hne : g.tests ≠ []) :
    Holds q tests ⟨g.name, p.shown g⟩ := by
  unfold Holds TestListPage.shown
  by_cases hq : Report.CollapseInForce q
  · rcases first?_isSome g.tests hne with ⟨r, hr⟩
    rw [if_pos hq, hp, decide_eq_true hq]
    refine ⟨r, ?_, hg ▸ comesFirst_of_first? g.tests r hr⟩
    simp only [if_true, hr, Option.toList_some]
  · rw [if_neg hq, hp, decide_eq_false hq]
    exact hg

section Filtered

variable [PatternLibrary]

/-- The filter of the criteria keeps the names that are wanted. -/
theorem accepts_iff_wanted (m : Manifest) (q : Query) (name : String)
    (hreads : ∀ e ∈ Report.filterInForce m q, (NameFilter.read? e).isSome) :
    ((Report.filterInForce m q).bind NameFilter.read?).all (·.accepts name) ↔
      Wanted m q name := by
  unfold Wanted
  cases hf : Report.filterInForce m q with
  | none =>
      simp only [Option.bind_none, Option.all_none, Option.mem_def, reduceCtorEq, false_implies,
        implies_true]
  | some e =>
      rcases Option.isSome_iff_exists.mp (hreads e hf) with ⟨f, hread⟩
      simp only [Option.bind_some, hread, Option.all_some, Option.mem_def, Option.some.injEq,
        forall_eq', exists_eq_left']

/-- The blocks of the page are those it should show. -/
theorem testList_shows (m : Manifest) (q : Query) (c : Criteria) (tests : List TestRecord)
    (hc : Report.criteria m q = .ok c) :
    Shows m q tests (blocksOf (Report.testList m c tests)) := by
  rcases (Report.criteria_eq_ok_iff m q c).mp hc with ⟨hreads, rfl⟩
  have hnames : ∀ p : TestListPage, (blocksOf p).map Block.name = p.groups.map TestGroup.name := by
    intro p
    rw [blocksOf, List.map_map]
    rfl
  have hmem := mem_testList_groups m { Criteria.unfiltered q with
    filter := (Report.filterInForce m q).bind NameFilter.read? } tests
  refine ⟨fun name => ?_, ?_, ?_, fun b hb => ?_⟩
  · -- A name on the page is that of a group, and a wanted name has one: that of its executions.
    rw [hnames, ← accepts_iff_wanted m q name hreads, List.mem_map]
    constructor
    · rintro ⟨g, hg, rfl⟩
      have hg := (hmem g).mp hg
      exact ⟨hg.1, hg.2.2⟩
    · intro h
      exact ⟨⟨name, executions tests name⟩, (hmem _).mpr ⟨h.1, rfl, h.2⟩, rfl⟩
  · rw [hnames]
    exact testList_groups_nodup m _ tests
  · -- The groups are sorted strictly before the filter, and the filter keeps their order.
    rw [blocksOf, List.pairwise_map, ← Report.orderInForce_eq]
    have hsorted := (TestGroup.sorted_pairwise_lt
      ((Criteria.unfiltered q).sort.getD m.groupOrder) (TestGroup.ofTests tests)
      (ofTests_nodup tests)).filter fun g =>
        ((Report.filterInForce m q).bind NameFilter.read?).all (·.accepts g.name)
    rw [testList_groups]
    refine hsorted.imp_of_mem fun {a b} ha hb hlt => ?_
    rw [← testList_groups] at ha hb
    exact precedes_of_compare_lt tests _ a b ((hmem a).mp ha).2.1 ((hmem b).mp hb).2.1 hlt
  · rcases List.mem_map.mp hb with ⟨g, hg, rfl⟩
    rcases (hmem g).mp hg with ⟨hn, ht, _⟩
    have hcollapsed : (Report.testList m { Criteria.unfiltered q with
        filter := (Report.filterInForce m q).bind NameFilter.read? } tests).isCollapsed
        = decide (Report.CollapseInForce q) := Report.isCollapsed_unfiltered q
    refine holds_shown q tests _ g hcollapsed ht ?_
    -- The name is that of a record, so the group has that record.
    rcases List.mem_map.mp hn with ⟨t, hmemt, hname⟩
    rw [ht]
    exact List.ne_nil_of_mem (List.mem_filter.mpr ⟨hmemt, decide_eq_true hname⟩)

/-- The rows of the page are those of its blocks. -/
theorem testList_rows (m : Manifest) (q : Query) (c : Criteria) (tests : List TestRecord)
    (hc : Report.criteria m q = .ok c) :
    (Report.testList m c tests).rows
      = rows m q tests (blocksOf (Report.testList m c tests)) := by
  rcases (Report.criteria_eq_ok_iff m q c).mp hc with ⟨_, rfl⟩
  -- Both sides go through the groups with their numbers, so it is enough to compare one group.
  rw [TestListPage.rows, rowsFrom_eq, rows, blocksOf, List.zipIdx_map, List.flatMap_map]
  refine List.flatMap_congr fun g hg => ?_
  have hcount : g.1.tests = executions tests g.1.name :=
    ((mem_testList_groups m _ tests g.1).mp (List.fst_mem_of_mem_zipIdx hg)).2.1
  rw [groupRows_eq]
  congr 1
  funext place t
  simp only [TestListPage.row, row, hcount, testList_formUrl, ← Report.highlightInForce_eq,
    shade_eq_styled, columnClass_eq_styled]
  rfl

/-- The report on loaded records is the one on the blocks of its page. -/
theorem ofList_eq_report [TemplateLibrary] (w : Workspace) (m : Manifest) (q : Query)
    (c : Criteria) (tests : List TestRecord) (hload : Report.tests w m = .ok tests)
    (hc : Report.criteria m q = .ok c) :
    Report.ofList w m q = .ok (report m q tests (blocksOf (Report.testList m c tests))) := by
  have hlen : (Report.testList m c tests).groups.length
      = (blocksOf (Report.testList m c tests)).length := by
    rw [blocksOf, List.length_map]
  unfold Report.ofList report
  rw [hc, hload, ← hlen, ← testList_rows m q c tests hc,
    ← testList_formUrl m c tests]
  rfl

/-- Without a filter and without collapsing every record is shown once. The names of the blocks
    are then those of all records, and a block has all records of its name. -/
theorem flatMap_records_perm (m : Manifest) (q : Query) (tests : List TestRecord)
    (blocks : List Block) (h : Shows m q tests blocks)
    (hfilter : Report.filterInForce m q = none) (hcollapse : ¬ Report.CollapseInForce q) :
    (blocks.flatMap Block.records).Perm tests := by
  have hwanted : ∀ name, Wanted m q name := by
    intro name e he
    rw [hfilter] at he
    exact absurd he (by simp only [Option.mem_def, reduceCtorEq, not_false_eq_true])
  have hrecords : blocks.flatMap Block.records
      = (blocks.map Block.name).flatMap (executions tests) := by
    rw [List.flatMap_map]
    refine List.flatMap_congr fun b hb => ?_
    have hb := h.holds b hb
    rw [Holds, if_neg hcollapse] at hb
    exact hb
  -- The names cover the records and none is repeated, whatever order they stand in.
  rw [hrecords]
  refine Bucket.flatMap_filter_perm displayName _ h.nodup tests fun t ht => ?_
  exact (h.mem_iff _).mpr ⟨List.mem_map_of_mem ht, hwanted _⟩

/-- The list of tests shows what it should. If the filter in force is a pattern, the report is made
    and its template is filled in with the rows of blocks that are as the manifest and the query
    ask. Without a filter and without collapsing every loaded record has exactly one row. -/
theorem ofList_shows [TemplateLibrary] (w : Workspace) (m : Manifest) (q : Query)
    (tests : List TestRecord) (hload : Report.tests w m = .ok tests)
    (hreads : ∀ e ∈ Report.filterInForce m q, (NameFilter.read? e).isSome) :
    ∃ blocks, Shows m q tests blocks ∧
      Report.ofList w m q = .ok (report m q tests blocks) ∧
      (Report.filterInForce m q = none → ¬ Report.CollapseInForce q →
        (blocks.flatMap Block.records).Perm tests ∧
        (rows m q tests blocks).length = tests.length) := by
  have hc := (Report.criteria_eq_ok_iff m q _).mpr ⟨hreads, rfl⟩
  have hshows := testList_shows m q _ tests hc
  refine ⟨_, hshows, ofList_eq_report w m q _ tests hload hc, fun hfilter hcollapse => ?_⟩
  have hperm := flatMap_records_perm m q tests _ hshows hfilter hcollapse
  exact ⟨hperm, (length_rows m q tests _).trans hperm.length_eq⟩

end Filtered

/-- A workspace with one table of test records. -/
def tableSpace (table : String) : Workspace :=
  { files := [("tests.csv", Utf8.encode table.toList)] }

/-- A manifest that lists the records of that table by priority. -/
def tableManifest : Manifest :=
  { name := "nightly"
    report := .list
    formUrl := { scheme := "http", path := "/tests" }
    sources := { tests := some "tests.csv" }
    longRunning := Span.zero
    groupOrder := .priority
    filter := some "login" }

/-- The records of a table are those that reading it gives. Whether two optional lists of records
    are equal can be decided, and for reports that may fail it cannot. -/
theorem tests_tableSpace (table : String) (tests : List TestRecord)
    (h : (Report.tests (tableSpace table) tableManifest).toOption = some tests) :
    Report.tests (tableSpace table) tableManifest = .ok tests := by
  cases hr : Report.tests (tableSpace table) tableManifest with
  | error f =>
      rw [hr] at h
      exact absurd h (by simp only [Except.toOption, reduceCtorEq, not_false_eq_true])
  | ok ts =>
      rw [hr, Except.toOption, Option.some.injEq] at h
      rw [h]

/-- A table with two executions of one test, listed under a filter that takes the place of the
    manifest's. -/
theorem ofList_shows_table :
    let w := tableSpace "id,display_name,status\n1,b,PASS\n2,a,FAIL\n3,b,ERROR\n"
    let q := Query.read "?filter=a|b&collapse=2&filter=c"
    let tests : List TestRecord := [
      { id := 1, displayName := "b", status := .pass },
      { id := 2, displayName := "a", status := .fail },
      { id := 3, displayName := "b", status := .error }]
    Report.tests w tableManifest = .ok tests ∧
      (∀ e ∈ Report.filterInForce tableManifest q, (NameFilter.read? e).isSome) ∧
      ∃ blocks, Shows tableManifest q tests blocks ∧
        Report.ofList w tableManifest q = .ok (report tableManifest q tests blocks) ∧
        (Report.filterInForce tableManifest q = none → ¬ Report.CollapseInForce q →
          (blocks.flatMap Block.records).Perm tests ∧
          (rows tableManifest q tests blocks).length = tests.length) := by
  intro w q tests
  have hload : Report.tests w tableManifest = .ok tests :=
    tests_tableSpace _ _ (by decide +kernel)
  have hreads : ∀ e ∈ Report.filterInForce tableManifest q, (NameFilter.read? e).isSome := by
    decide +kernel
  exact ⟨hload, hreads, ofList_shows w tableManifest q tests hload hreads⟩

end Listing

end RunReport
