import RunReport.Proofs.ListRuns

/-!
# What a Collapsed Row Stands for

Why the one row of a collapsed group tells what the group is listed for.

A list by priority is sorted by the status of each group, the most significant one among its
records, and a collapsed list shows of each group the record that comes first. These are two
searches for a least element that know nothing of each other. One looks at the statuses alone. The
other looks at whole records, of which several may have the best status, and picks one by its time
and its id. If they did not agree, a page that is sorted by one would show the other, and would not
look sorted at all.

They agree because the order of records begins with the priority of the status, so the record that
comes first has the least priority among all of them (`leastPriority_of_comesFirst`), and because no
two statuses have the same priority. `map_collapsed` says what a collapsed page shows of its groups,
and the order of the page follows from that of the groups.

## Main definitions

* `TestListRow.displayed`: What a row displays of its group.
* `Status.Ranked`: One displayed name and status stand before others.
* `TestListPage.collapsed`: A page that shows one record of each group.

## Theorems

* `shown_collapsed`: What a collapsed page shows of a group.
* `map_collapsed`: A collapsed page shows the names and the statuses of its groups.
* `ranked_of_compare_lt`: Groups that are in order by priority are displayed in order.
* `collapsed_agrees`: A collapsed page shows its groups in their order.
* `collapsed_agrees_table`: Three groups, one of them with two errors.
-/

namespace RunReport

/-- What a row displays of its group: the name and the status. -/
def TestListRow.displayed (r : TestListRow) : String × String :=
  (r.group, r.status)

/-- A displayed name and status stand before others: by the priority of the status, and by name if
    the status is the same. Every status has a label of its own. -/
def Status.Ranked (a b : String × String) : Prop :=
  ∃ s s' : Status, a.2 = s.label ∧ b.2 = s'.label ∧
    (s.priority < s'.priority ∨ s = s' ∧ a.1 < b.1)

/-- Groups that are in order by priority are ranked as they are displayed, since a status is given
    by its priority. -/
theorem Status.ranked_of_compare_lt (a b : TestGroup) (h : GroupOrder.priority.compare a b = .lt) :
    Ranked (a.name, a.status.label) (b.name, b.status.label) := by
  refine ⟨a.status, b.status, rfl, rfl, ?_⟩
  rcases Ordering.then_eq_lt.mp h with hlt | ⟨heq, hlt⟩
  · exact Or.inl (Nat.compare_eq_lt.mp hlt)
  · exact Or.inr ⟨eq_of_priority_eq _ _ (Nat.compare_eq_eq.mp heq),
      (GroupOrder.compare_text_eq_lt _ _).mp hlt⟩

namespace TestListPage

/-- A page with one record of each group. -/
def collapsed (p : TestListPage) : TestListPage :=
  { p with isCollapsed := true }

/-- Of a group with records a collapsed page shows the one that comes first. It is the head of the
    sorted records, and it has the status of the group. -/
theorem shown_collapsed (p : TestListPage) (g : TestGroup) (hg : g.tests ≠ []) :
    ∃ t, p.collapsed.shown g = [t] ∧ (TestRecord.sorted g.tests).head? = some t ∧
      t.status = g.status := by
  rcases TestRecord.first?_isSome g.tests hg with ⟨t, ht⟩
  have hfirst := TestRecord.comesFirst_of_first? g.tests t ht
  refine ⟨t, ?_, TestRecord.head?_sorted t g.tests hfirst,
    TestGroup.status_of_comesFirst g t hfirst⟩
  simp only [shown, collapsed, if_true, ht, Option.toList_some]

/-- A collapsed page shows the names and the statuses of its groups, if they have records. -/
theorem map_collapsed (p : TestListPage) (h : ∀ g ∈ p.groups, g.tests ≠ []) :
    p.collapsed.rows.map TestListRow.displayed
      = p.groups.map fun g => (g.name, g.status.label) := by
  have hrows : ∀ g ∈ p.groups.zipIdx 1,
      (p.collapsed.groupRows g.2 g.1).map TestListRow.displayed
        = [(g.1.name, g.1.status.label)] := by
    intro g hg
    rcases p.shown_collapsed g.1 (h g.1 (List.fst_mem_of_mem_zipIdx hg)) with ⟨t, ht, -, hstatus⟩
    rw [Listing.groupRows_eq, ht, ← hstatus]
    rfl
  have hgroups : p.groups.map (fun g => (g.name, g.status.label))
      = ((p.groups.zipIdx 1).map Prod.fst).map fun g => (g.name, g.status.label) := by
    rw [List.zipIdx_map_fst]
  have hsame : p.collapsed.groups = p.groups := rfl
  rw [rows, hsame, Listing.rowsFrom_eq, List.map_flatMap, List.flatMap_congr hrows, hgroups,
    List.map_map, ← List.map_eq_flatMap]
  rfl

/-- Of a group with records a collapsed page shows the head of its sorted records, and this record
    has the status of the group. After a sort by priority a collapsed page has one row for each
    group, with the name and the status of the group, and the rows are in order by what they
    display: by the priority of the status, and by name if the status is the same. -/
theorem collapsed_agrees :
    (∀ (p : TestListPage) (g : TestGroup), g.tests ≠ [] →
      ∃ t, p.collapsed.shown g = [t] ∧ (TestRecord.sorted g.tests).head? = some t ∧
        t.status = g.status) ∧
    ∀ (formUrl : Url) (highlighter : Highlighter) (tests : List TestRecord) (steps : List Step),
      lastOrder steps = some .priority →
      let page := collapsed { (ofTests formUrl tests).run steps with highlighter }
      page.rows.map TestListRow.displayed = page.groups.map (fun g => (g.name, g.status.label)) ∧
      (page.rows.map TestListRow.displayed).Pairwise Status.Ranked := by
  refine ⟨shown_collapsed, fun formUrl highlighter tests steps hlast => ?_⟩
  intro page
  have hnormal := run_is_normal formUrl tests steps
  have hinhabited : ∀ g ∈ ((ofTests formUrl tests).run steps).groups, g.tests ≠ [] := by
    intro g hg
    -- The groups are some of those that the records have.
    have hkept := hnormal.perm.mem_iff.mp hg
    exact Listing.ofTests_inhabited tests g (List.mem_filter.mp hkept).1
  have hrows := map_collapsed { (ofTests formUrl tests).run steps with highlighter } hinhabited
  refine ⟨hrows, ?_⟩
  rw [hrows, List.pairwise_map]
  exact (hnormal.ordered _ hlast).imp fun {a b} hab => Status.ranked_of_compare_lt a b hab

/-- Three groups, one of them with two errors, of which the later one took longer. -/
theorem collapsed_agrees_table :
    let noon : Instant := ⟨0, 43200, 0, by decide, by decide⟩
    let later : Instant := ⟨0, 43260, 0, by decide, by decide⟩
    let pass : TestRecord := { id := 1, displayName := "login", status := .pass }
    let error : TestRecord := { id := 2, displayName := "login", status := .error }
    let longer : TestRecord :=
      { id := 3, displayName := "login", status := .error, start := noon, finish := later }
    let paid : TestRecord := { id := 4, displayName := "checkout", status := .pass }
    let denied : TestRecord := { id := 5, displayName := "admin", status := .error }
    let login : TestGroup := ⟨"login", [pass, error, longer]⟩
    let steps := [Step.sort .priority]
    let start := ofTests { scheme := "http", path := "/tests" } [pass, error, paid, longer, denied]
    let page := collapsed { start.run steps with highlighter := default }
    page.groups = [⟨"admin", [denied]⟩, login, ⟨"checkout", [paid]⟩] ∧
    login.tests ≠ [] ∧ lastOrder steps = some .priority ∧
    page.shown login = [longer] ∧ longer.status = login.status ∧
    page.rows.map TestListRow.displayed
      = [("admin", "ERROR"), ("login", "ERROR"), ("checkout", "PASS")] ∧
    (page.rows.map TestListRow.displayed).Pairwise Status.Ranked := by
  intro noon later pass error longer paid denied login steps start page
  have hne : login.tests ≠ [] := List.cons_ne_nil _ _
  have hlast : lastOrder steps = some .priority := rfl
  have hshown : page.shown login = [longer] := by decide +kernel
  have hgroups : page.groups = [⟨"admin", [denied]⟩, login, ⟨"checkout", [paid]⟩] := by
    -- The list is normal, and there is one normal list.
    refine normal_unique _ _ _ _ _ _ (fun _ => Iff.rfl) (run_is_normal _ _ steps) ?_
    refine ⟨by decide +kernel, fun hnone => absurd hnone (Option.some_ne_none _), ?_⟩
    intro o ho
    rw [Option.mem_def, hlast, Option.some_inj] at ho
    subst ho
    decide +kernel
  rcases collapsed_agrees with ⟨hrecord, hpages⟩
  rcases hrecord { start.run steps with highlighter := default } login hne with
    ⟨t, ht, -, hstatus⟩
  rw [List.singleton_inj.mp (ht.symm.trans hshown)] at hstatus
  rcases hpages { scheme := "http", path := "/tests" } default
    [pass, error, paid, longer, denied] steps hlast with ⟨hrows, hranked⟩
  rw [hgroups] at hrows
  exact ⟨hgroups, hne, hlast, hshown, hstatus, hrows, hranked⟩

end TestListPage

end RunReport
