import RunReport.Proofs.HistoryRows
import RunReport.Proofs.Listing

/-!
# Whose History Is Shown

Which records the report on a history shows, for every way to ask for one.

A query can name a test in a parameter or an attribute, or not at all, and what it says may be the
number of a record, a number that no record has, or no number. The report does not tell the last of
these from a query that names no test: `Query.id?` gives `none` for both. So there are four ways to
ask and three answers, all records, those of one test, and none. `ofHistory_selects` says which
answer goes with which way, and that only a text that is no number goes with the wrong one. The
records are those that the page has rows for, and its text is these rows (`TestHistoryPage.Lists`).

## Main definitions

* `Report.testInForce`: The test that is asked for, as the query writes it.
* `Report.number?`: The number that a text writes.

## Theorems

* `id?_eq_number`: The id in a query is the number of the text in force.
* `historyOf_of_none`, `historyOf_of_named`, `historyOf_of_unnamed`: The records that are shown.
* `lists_testHistory`: The page of accepted criteria shows its records.
* `ofHistory_selects`: The report on a history, for every query.
* `ofHistory_selects_table`: The history of a test that was run twice, and of one that is not there.
* `historyOf_unreadable`: A text that is no number asks for all records.
-/

namespace RunReport

open Template Page

namespace Report

/-- The test that is asked for, as the query writes it: by the first parameter, else by the last
    attribute. -/
def testInForce (q : Query) : Option String :=
  (q.firstParameter Parameter.testId).or (q.lastAttribute Parameter.testId)

/-- The number of 64 bits that a text writes, with blanks around it. -/
def number? (text : String) : Option UInt64 :=
  Numeral.word? (Text.trim text.toList)

variable (q : Query) (tests : List TestRecord)

/-- The id in a query is the number of the text in force, if there is one and it is a number. -/
theorem id?_eq_number : q.id? Parameter.testId = (testInForce q).bind number? := by
  rw [Query.id?, Query.value, Query.parameter_eq_firstParameter, Query.attributeOf_eq_lastAttribute]
  rfl

/-- Without a test that is asked for all records are shown. -/
theorem historyOf_of_none (h : testInForce q = none) : historyOf q tests = tests := by
  rw [historyOf, id?_eq_number, h]
  rfl

/-- The number of a record asks for all records with its display name. Of several records with this
    number the first one counts. -/
theorem historyOf_of_named (text : String) (r : TestRecord) (htext : testInForce q = some text)
    (hr : tests.find? (number? text = some ·.id) = some r) :
    historyOf q tests = tests.filter (·.displayName = r.displayName) := by
  have hnumber : number? text = some r.id := by
    simpa using List.find?_some hr
  have hfirst : tests.find? (·.id = r.id) = some r := by
    rw [← hr, hnumber]
    exact congrArg (List.find? · tests) (funext fun t => by simp [eq_comm])
  rw [historyOf, id?_eq_number, htext, Option.bind_some, hnumber]
  simp only [executionsOf, hfirst, Option.map_some, Option.getD_some]

/-- A text that is the number of no record asks for no records if it is a number, and for all of
    them if it is none. -/
theorem historyOf_of_unnamed (text : String) (htext : testInForce q = some text)
    (hnone : ∀ r ∈ tests, number? text ≠ some r.id) :
    historyOf q tests = if (number? text).isSome then [] else tests := by
  rw [historyOf, id?_eq_number, htext, Option.bind_some]
  cases hnumber : number? text with
  | none => rfl
  | some id =>
      have hmissing : tests.find? (·.id = id) = none := by
        refine List.find?_eq_none.mpr fun r hr heq => hnone r hr ?_
        rw [hnumber, decide_eq_true_eq.mp heq]
      simp only [executionsOf, hmissing, Option.map_none, Option.getD_none, Option.isSome_some,
        if_true]

/-- The page of accepted criteria shows its records, and it is the page of the report. -/
theorem lists_testHistory [PatternLibrary] [TemplateLibrary] (w : Workspace) (m : Manifest)
    (c : Criteria) (hload : Report.tests w m = .ok tests) (hc : criteria m q = .ok c) :
    ∃ html, (testHistory m q c tests).render = some html ∧
      ofHistory w m q = .ok { notes := unknownTestNotes q tests, page := .ok html } ∧
      TestHistoryPage.Lists m q (testHistory m q c tests) html (historyOf q tests) := by
  rcases (testHistory m q c tests).renders with ⟨-, html, hhtml, hpage, -⟩
  refine ⟨html, hhtml, ?_, TestHistoryPage.lists_tests m q _ html rfl ?_ hhtml⟩
  · unfold ofHistory
    rw [hc, hload, ← hpage]
    rfl
  · rcases (criteria_eq_ok_iff m q c).mp hc with ⟨-, rfl⟩
    exact congrArg (Highlighter.mk m.longRunning) (highlightInForce_eq q)

/-- The report on a history, for every query whose filter in force is a pattern. Without a test that
    is asked for it shows all loaded records, and for the number of a record those that share the
    display name of the first record with that number, all in their order. For any other text it
    shows none, and says so, exactly if that text is a number, unless nothing was loaded at all. -/
theorem ofHistory_selects [PatternLibrary] [TemplateLibrary] (w : Workspace) (m : Manifest)
    (q : Query) (tests : List TestRecord) (hload : Report.tests w m = .ok tests)
    (hreads : ∀ e ∈ filterInForce m q, (NameFilter.read? e).isSome) :
    ∃ c html, criteria m q = .ok c ∧
      let page := testHistory m q c tests
      page.render = some html ∧
      ofHistory w m q = .ok { notes := unknownTestNotes q tests, page := .ok html } ∧
      (testInForce q = none → page.Lists m q html tests) ∧
      (∀ text ∈ testInForce q,
        (∀ r, tests.find? (number? text = some ·.id) = some r →
          page.Lists m q html (tests.filter (·.displayName = r.displayName))) ∧
        ((∀ r ∈ tests, number? text ≠ some r.id) →
          (page.tests = [] ↔ (number? text).isSome ∨ tests = []))) ∧
      (page.tests = [] → page.Lists m q html [] ∧
        ∃ front back, html = front ++ noResultsLine "5" ++ back) := by
  -- A filter that can be read is all that the criteria need.
  have hcriteria : ∃ c, criteria m q = .ok c :=
    ⟨_, (criteria_eq_ok_iff m q _).mpr ⟨hreads, rfl⟩⟩
  rcases hcriteria with ⟨c, hc⟩
  rcases lists_testHistory q tests w m c hload hc with ⟨html, hhtml, hreport, hlists⟩
  refine ⟨c, html, hc, hhtml, hreport, fun hnone => ?_, fun text htext => ⟨fun r hr => ?_, ?_⟩,
    fun hnil => ?_⟩
  · rwa [historyOf_of_none q tests hnone] at hlists
  · rwa [historyOf_of_named q tests text r htext hr] at hlists
  · intro hnone
    change historyOf q tests = [] ↔ _
    rw [historyOf_of_unnamed q tests text htext hnone]
    cases number? text with
    | none => simp only [Option.isSome_none, Bool.false_eq_true, if_false, false_or]
    | some id => simp only [Option.isSome_some, if_true, true_or]
  · -- A page without records has the line of a page without records, however it came to be empty.
    have hempty : historyOf q tests = [] := hnil
    rw [hempty] at hlists
    exact ⟨hlists, hlists.noResults⟩

/-- A table with two executions of one test. The parameter asks for it by the number of the second
    one, with a blank in front, and takes the place of an attribute; the attribute alone asks for a
    test that is not there. -/
theorem ofHistory_selects_table :
    let w := Listing.tableSpace "id,display_name,status
1,a,PASS
2,b,FAIL
3,a,ERROR
"
    let m := Listing.tableManifest
    let a : TestRecord := { id := 1, displayName := "a", status := .pass }
    let b : TestRecord := { id := 2, displayName := "b", status := .fail }
    let a' : TestRecord := { id := 3, displayName := "a", status := .error }
    let tests := [a, b, a']
    let attributes := [("TESTID", "9")]
    let q := (Query.read "testId=+3").withAttributes attributes
    let missing := (Query.read "").withAttributes attributes
    Report.tests w m = .ok tests ∧
    (∀ e ∈ filterInForce m q, (NameFilter.read? e).isSome) ∧
    (∃ html, ofHistory w m q = .ok { page := .ok html } ∧
      html = TestHistoryPage.historyText m.formUrl [historyRow m q a, historyRow m q a']) ∧
    ∃ html front back, ofHistory w m missing
        = .ok { notes := [.warning "Test 9 not found"], page := .ok html } ∧
      html = front ++ noResultsLine "5" ++ back := by
  intro w m a b a' tests attributes q missing
  have hload : Report.tests w m = .ok tests := Listing.tests_tableSpace _ _ (by decide +kernel)
  have hreads : ∀ e ∈ filterInForce m q, (NameFilter.read? e).isSome := by
    decide +kernel
  have hmissing : ∀ e ∈ filterInForce m missing, (NameFilter.read? e).isSome := by
    decide +kernel
  rcases ofHistory_selects w m q tests hload hreads with ⟨c, html, -, -, hreport, -, hnamed, -⟩
  have hlists := (hnamed " 3" (by decide +kernel)).1 a' (by decide +kernel)
  have hfound : unknownTestNotes q tests = [] := by
    decide +kernel
  rw [hfound] at hreport
  have htext := hlists.text
  rw [show tests.filter (·.displayName = a'.displayName) = [a, a'] by decide +kernel] at htext
  rcases ofHistory_selects w m missing tests hload hmissing with
    ⟨c', html', -, -, hreport', -, hunnamed, hempty⟩
  have hnone := ((hunnamed "9" (by decide +kernel)).2 (by decide +kernel)).mpr (by decide +kernel)
  rcases (hempty hnone).2 with ⟨front, back, hline⟩
  have hnotes : unknownTestNotes missing tests = [.warning "Test 9 not found"] := by
    decide +kernel
  rw [hnotes] at hreport'
  exact ⟨hload, hreads, ⟨html, hreport, htext⟩, html', front, back, hreport', hline⟩

/-- A text that is no number asks for a test that is not there, and all records are shown. -/
theorem historyOf_unreadable :
    let w := Listing.tableSpace "id,display_name,status\n1,a,PASS\n"
    let m : Manifest := { Listing.tableManifest with filter := none }
    let q := Query.read "testId=x"
    let t : TestRecord := { id := 1, displayName := "a", status := .pass }
    Report.tests w m = .ok [t] ∧ filterInForce m q = none ∧
    testInForce q = some "x" ∧ (∀ r ∈ [t], number? "x" ≠ some r.id) ∧
      ∃ html, ofHistory w m q = .ok { page := .ok html } ∧
        html = TestHistoryPage.historyText m.formUrl [historyRow m q t] := by
  intro w m q t
  have hload : Report.tests w m = .ok [t] := Listing.tests_tableSpace _ _ (by decide +kernel)
  have hfilter : filterInForce m q = none := by decide +kernel
  have htext : testInForce q = some "x" := by decide +kernel
  have hnone : ∀ r ∈ [t], number? "x" ≠ some r.id := by decide +kernel
  have hc := (criteria_eq_ok_iff m q _).mpr ⟨by simp [hfilter], rfl⟩
  rcases lists_testHistory q [t] w m _ hload hc with ⟨html, -, hreport, hlists⟩
  have hnotes : unknownTestNotes q [t] = [] := by decide +kernel
  have hall : historyOf q [t] = [t] := historyOf_of_unnamed q [t] "x" htext hnone
  rw [hnotes] at hreport
  rw [hall] at hlists
  exact ⟨hload, hfilter, htext, hnone, html, hreport, hlists.text⟩

end Report

end RunReport
