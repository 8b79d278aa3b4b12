import RunReport.Proofs.FormEncoding
import RunReport.Proofs.HistoryRows
import RunReport.Proofs.Listing
import RunReport.Proofs.Numeral

/-!
# Following the Link of a Test

A link to a test leads to the history of that test.

The pages write the address of a test, and the report on its history starts from the query of an
address. Between the two lie the encoding of the query, the old query of the base address that must
not shine through, the numerals of the ids, and two searches through the records: one for the id
and one for the display name of the record that it found. `parameters_testLink` settles what is in
the query, whatever the base was, and `id?_of_parameters` which ids are read from it. The filter,
which only an attribute or the manifest can still bring in, decides whether there is a report, but
not what is in it: the rows of the records, in their order (`TestHistoryPage.Lists`).

## Main definitions

* `Page.historyPage`: The page on the history of a test.

## Theorems

* `parameters_testLink`: The query of the link has the parameters of the test.
* `id?_of_parameters`, `highlight_of_parameters`: The ids and the highlights that are read from
  these parameters.
* `testHistory_eq`, `ofHistory_eq`: The page and the report on the history of a test that is among
  the records.
* `lists_historyPage`: The page on the history of a test shows all records with its display name.
* `testLink_selects`: The link of a test selects its history.
* `testLink_selects_table`: A link to the second record of a table.
-/

namespace RunReport

namespace Page

/-- The query of the link has the parameters of the test and no others. -/
theorem parameters_testLink (base : Url) (t : TestRecord) :
    (Query.read ((testLink base t).query.getD "")).parameters = testParameters t :=
  Query.read_pairsText (testParameters t)

/-- The ids that are read from the parameters of a test are the test's own. -/
theorem id?_of_parameters (q : Query) (t : TestRecord) (hq : q.parameters = testParameters t) :
    q.id? Parameter.testId = some t.id ∧
      (0 < t.suiteId → q.id? Parameter.suiteId = some t.suiteId) := by
  have hread : ∀ name id, q.parameter name = some (idText id) → q.id? name = some id := by
    intro name id hname
    rw [Query.id?, Query.value, hname]
    exact Numeral.word?_trim_text id
  refine ⟨hread _ _ ?_, fun hsuite => hread _ _ ?_⟩
  · rw [Query.parameter, hq, testParameters]
    cases t.hasSuite <;> rfl
  · have hhas : t.hasSuite = true := decide_eq_true hsuite
    rw [Query.parameter, hq, testParameters, hhas]
    rfl

/-- No parameter of a test chooses highlights, so the usual ones count. -/
theorem highlight_of_parameters (q : Query) (t : TestRecord)
    (hq : q.parameters = testParameters t) : Report.highlightInForce q = .failing := by
  have hnone : q.firstParameter Parameter.highlight = none := by
    rw [← Query.parameter_eq_firstParameter, Query.parameter, hq, testParameters]
    cases t.hasSuite <;> rfl
  rw [Report.highlightInForce, hnone, if_pos Option.isNone_none]

/-- The page on the history of a test: all records with its display name. -/
def historyPage (m : Manifest) (tests : List TestRecord) (t : TestRecord) : TestHistoryPage :=
  { formUrl := m.formUrl
    tests := tests.filter (·.displayName = t.displayName)
    highlighter := { longRunning := m.longRunning } }

section History

variable (m : Manifest) (q : Query) (t : TestRecord) (tests : List TestRecord)

/-- The records of a test that is among some records are those with its display name. -/
theorem executionsOf_eq (hfirst : tests.find? (·.id = t.id) = some t) :
    Report.executionsOf tests t.id = some (tests.filter (·.displayName = t.displayName)) := by
  rw [Report.executionsOf, hfirst]
  rfl

/-- The page that the parameters of a test ask for, if the test is among the records. -/
theorem testHistory_eq [PatternLibrary] (c : Criteria) (hq : q.parameters = testParameters t)
    (hfirst : tests.find? (·.id = t.id) = some t) (hc : Report.criteria m q = .ok c) :
    Report.testHistory m q c tests = historyPage m tests t := by
  have hhistory : Report.historyOf q tests = tests.filter (·.displayName = t.displayName) := by
    rw [Report.historyOf, (id?_of_parameters q t hq).1]
    exact congrArg (Option.getD · []) (executionsOf_eq t tests hfirst)
  have hhighlight : c.highlight = .failing := by
    rcases (Report.criteria_eq_ok_iff m q c).mp hc with ⟨-, rfl⟩
    exact (Report.highlightInForce_eq q).trans (highlight_of_parameters q t hq)
  rw [Report.testHistory, historyPage, hhistory, Report.highlighter, hhighlight]

/-- The report on the history has nothing to note, since the test is among the records. -/
theorem ofHistory_eq [PatternLibrary] [TemplateLibrary] (w : Workspace)
    (hq : q.parameters = testParameters t) (hfirst : tests.find? (·.id = t.id) = some t)
    (c : Criteria) (hc : Report.criteria m q = .ok c) (hload : Report.tests w m = .ok tests) :
    Report.ofHistory w m q
      = .ok { page := Report.bestEffort TestHistoryPage.template
                (historyPage m tests t).bindings } := by
  have hnotes : Report.unknownTestNotes q tests = [] := by
    rw [Report.unknownTestNotes, (id?_of_parameters q t hq).1]
    exact if_pos (congrArg Option.isSome (executionsOf_eq t tests hfirst))
  rw [← testHistory_eq m q t tests c hq hfirst hc, ← hnotes]
  unfold Report.ofHistory
  rw [hc, hload]
  rfl

/-- The page on the history of a test shows all records with its display name. -/
theorem lists_historyPage (hq : q.parameters = testParameters t) :
    ∃ html, (historyPage m tests t).render = some html ∧
      (historyPage m tests t).Lists m q html (tests.filter (·.displayName = t.displayName)) := by
  have hhtml := (historyPage m tests t).render_history
  refine ⟨_, hhtml, TestHistoryPage.lists_tests m q _ _ rfl ?_ hhtml⟩
  rw [highlight_of_parameters q t hq]
  rfl

end History

/-- The link of a test selects its history. It keeps the base address apart from the query, and its
    query has the id of the test and the number of its suite, if it has one, and nothing else, so
    only the last of several links counts. If the test is the first of some records with its id, and
    the filter that an attribute or the manifest gives is a pattern, the page on the query has a row
    for each record with the display name of the test, in their order, and so has the report if
    these are the loaded records. -/
theorem testLink_selects [PatternLibrary] [TemplateLibrary] (base : Url) (t : TestRecord) :
    let link := testLink base t
    let q := Query.read (link.query.getD "")
    (link.scheme = base.scheme ∧ link.authority = base.authority ∧ link.path = base.path ∧
      link.fragment = base.fragment) ∧
    q.parameters.map Prod.fst
      = (if 0 < t.suiteId then [Parameter.suiteId] else []) ++ [Parameter.testId] ∧
    q.id? Parameter.testId = some t.id ∧
    (0 < t.suiteId → q.id? Parameter.suiteId = some t.suiteId) ∧
    (∀ u, testLink link u = testLink base u) ∧
    ∀ m tests attributes, tests.find? (·.id = t.id) = some t →
      (∀ e ∈ Report.filterInForce m (q.withAttributes attributes), (NameFilter.read? e).isSome) →
      let page := historyPage m tests t
      t ∈ page.tests ∧
      (∃ c, Report.criteria m (q.withAttributes attributes) = .ok c ∧
        Report.testHistory m (q.withAttributes attributes) c tests = page) ∧
      ∃ html, page.render = some html ∧
        page.Lists m (q.withAttributes attributes) html
          (tests.filter (·.displayName = t.displayName)) ∧
        ∀ w, Report.tests w m = .ok tests →
          Report.ofHistory w m (q.withAttributes attributes) = .ok { page := .ok html } := by
  intro link q
  have hq : q.parameters = testParameters t := parameters_testLink base t
  have hnames : q.parameters.map Prod.fst
      = (if 0 < t.suiteId then [Parameter.suiteId] else []) ++ [Parameter.testId] := by
    rw [hq, testParameters, TestRecord.hasSuite]
    by_cases hsuite : 0 < t.suiteId
    · rw [decide_eq_true hsuite, if_pos hsuite]
      rfl
    · rw [decide_eq_false hsuite, if_neg hsuite]
      rfl
  -- All that is asked of the query follows from its pairs.
  have hids := id?_of_parameters q t hq
  have honce : ∀ u, testLink link u = testLink base u := fun u =>
    base.withPairs_withPairs (testParameters t) (testParameters u)
  refine ⟨⟨rfl, rfl, rfl, rfl⟩, hnames, hids.1, hids.2, honce, ?_⟩
  intro m tests attributes hfirst hreads page
  -- From here on the record is the first with its identifier, so the query finds it and no other.
  have hmem : t ∈ tests := List.mem_of_find?_eq_some hfirst
  have hc := (Report.criteria_eq_ok_iff m (q.withAttributes attributes) _).mpr ⟨hreads, rfl⟩
  refine ⟨List.mem_filter.mpr ⟨hmem, decide_eq_true rfl⟩, ⟨_, hc, ?_⟩, ?_⟩
  · exact testHistory_eq m (q.withAttributes attributes) t tests _ hq hfirst hc
  · rcases lists_historyPage m (q.withAttributes attributes) t tests hq with ⟨html, hhtml, hlists⟩
    refine ⟨html, hhtml, hlists, fun w hload => ?_⟩
    rw [ofHistory_eq m (q.withAttributes attributes) t tests w hq hfirst _ hc hload,
      bestEffort_of_render _ _ html hhtml]

/-- The link to the second record of a table, from an address that has a query and a fragment. The
    test of that record was run twice, and the reader's filter takes the place of the manifest's. -/
theorem testLink_selects_table :
    let w := Listing.tableSpace
      "id,display_name,status,suite_id\n1,b,PASS,7\n2,a,FAIL,7\n3,a,ERROR,8\n"
    let base : Url :=
      { scheme := "http", path := "/tests", query := some "testId=1&sort=name"
        fragment := some "top" }
    let t : TestRecord := { id := 2, displayName := "a", status := .fail, suiteId := 7 }
    let tests : List TestRecord := [
      { id := 1, displayName := "b", status := .pass, suiteId := 7 }, t,
      { id := 3, displayName := "a", status := .error, suiteId := 8 }]
    let q := Query.read ((testLink base t).query.getD "")
    let attributes := [("Filter", "b|c")]
    let row := Report.historyRow Listing.tableManifest (q.withAttributes attributes)
    let page := historyPage Listing.tableManifest tests t
    tests.find? (·.id = t.id) = some t ∧
      (∀ e ∈ Report.filterInForce Listing.tableManifest (q.withAttributes attributes),
        (NameFilter.read? e).isSome) ∧
      0 < t.suiteId ∧ q.id? Parameter.suiteId = some t.suiteId ∧ t ∈ page.tests ∧
      Report.tests w Listing.tableManifest = .ok tests ∧
      page.rows = [row t, row tests[2]] ∧
      ∃ html, page.render = some html ∧
        html = TestHistoryPage.historyText Listing.tableManifest.formUrl [row t, row tests[2]] ∧
        Report.ofHistory w Listing.tableManifest (q.withAttributes attributes)
          = .ok { page := .ok html } := by
  intro w base t tests q attributes row page
  have hfirst : tests.find? (·.id = t.id) = some t := by
    decide +kernel
  have hreads : ∀ e ∈ Report.filterInForce Listing.tableManifest (q.withAttributes attributes),
      (NameFilter.read? e).isSome := by
    decide +kernel
  have hsuite : 0 < t.suiteId := by
    decide
  have hload : Report.tests w Listing.tableManifest = .ok tests :=
    Listing.tests_tableSpace _ _ (by decide +kernel)
  rcases testLink_selects base t with ⟨-, -, -, hid, -, hpages⟩
  rcases hpages Listing.tableManifest tests attributes hfirst hreads with
    ⟨hmem, -, html, hhtml, hlists, hreport⟩
  have hrecords : tests.filter (·.displayName = t.displayName) = [t, tests[2]] := by
    decide +kernel
  rw [hrecords] at hlists
  exact ⟨hfirst, hreads, hsuite, hid hsuite, hmem, hload, hlists.rows, html, hhtml, hlists.text,
    hreport w hload⟩

end Page

end RunReport
