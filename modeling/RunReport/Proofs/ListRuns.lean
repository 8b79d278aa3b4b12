import RunReport.Proofs.Listing

/-!
# Sorting and Filtering the List Step by Step

What a list of tests has become after any number of sorts and filters.

A sort keeps groups that compare equal where they were, so in general it remembers the sort before
it, and a list that was sorted twice is not one that was sorted once. The groups of a list have
distinct names, though, and both orders tell groups with distinct names apart. So a sort by one of
them leaves no choice, and nothing of the earlier order is left. A filter takes groups away and
leaves the others in their order.

`Normal` says what is left: the groups of the records that all filters keep, in the order of the
last sort, or in that of the file if there was none. One step leads from one normal list to the next
(`normal_sorted`, `normal_filtered`), and with distinct names there is one normal list for a set of
filters and a last order (`normal_unique`). Runs that agree in these two end in the same list, in
whatever order their steps came.

Sorts by another comparison may leave groups as they were. Even then a filter can go before the sort
or after it (`filtered_sorted`), because the sort is stable.

## Main definitions

* `TestListPage.Step`: A sort or a filter.
* `TestListPage.run`: A list after some steps.
* `TestListPage.filtersOf`, `TestListPage.lastOrder`: The filters and the last order of some steps.
* `TestListPage.kept`: The groups of some records that all filters keep.
* `TestListPage.Normal`: What the groups of a list should be after some steps.

## Theorems

* `nodup_kept`: The groups that are kept have distinct names.
* `normal_sorted`, `normal_filtered`: One step more.
* `normal_unique`: There is one normal list.
* `run_append`, `run_eq`: A run in parts, and a run changes only the groups.
* `run_is_normal`: A run ends in a normal list.
* `filtered_sorted`: A filter can go before a sort or after it.
* `run_normal`: Any run of sorts and filters has one normal form.
* `run_normal_table`: Two runs over four records.
-/

namespace RunReport

namespace TestListPage

/-- A step that changes the groups of a list. -/
inductive Step
  | sort (order : GroupOrder)
  | filter (f : NameFilter)
  deriving DecidableEq

/-- A list after a step. -/
def apply (p : TestListPage) : Step → TestListPage
  | .sort order => p.sorted order.compare
  | .filter f => p.filtered f

/-- A list after some steps. -/
def run (p : TestListPage) (steps : List Step) : TestListPage :=
  steps.foldl apply p

/-- The filters among some steps. -/
def filtersOf (steps : List Step) : List NameFilter :=
  steps.filterMap fun
    | .sort _ => none
    | .filter f => some f

/-- The order of the last sort among some steps. -/
def lastOrder (steps : List Step) : Option GroupOrder :=
  (steps.filterMap fun
    | .sort order => some order
    | .filter _ => none).getLast?

/-- The groups of some records that all of some filters keep, as they came up in the file. -/
def kept (tests : List TestRecord) (filters : List NameFilter) : List TestGroup :=
  (TestGroup.ofTests tests).filter fun g => filters.all (·.accepts g.name)

/-- What the groups of a list should be: those that the filters keep, and these in the given order,
    or as they came up in the file. -/
structure Normal (tests : List TestRecord) (filters : List NameFilter) (order : Option GroupOrder)
    (gs : List TestGroup) : Prop where
  perm : gs.Perm (kept tests filters)
  created : order = none → gs = kept tests filters
  ordered : ∀ o ∈ order, gs.Pairwise fun a b => o.compare a b = .lt

section Normal

variable (tests : List TestRecord) (filters : List NameFilter) (order : Option GroupOrder)
  (gs : List TestGroup)

/-- The groups that are kept have distinct names. -/
theorem nodup_kept : ((kept tests filters).map TestGroup.name).Nodup :=
  (Listing.ofTests_nodup tests).sublist (List.filter_sublist.map TestGroup.name)

/-- A sort leaves no trace of an earlier one, since it tells all groups apart. -/
theorem normal_sorted (o : GroupOrder) (h : Normal tests filters order gs) :
    Normal tests filters (some o) (TestGroup.sorted o.compare gs) := by
  constructor
  case perm => exact (TestGroup.sorted_perm o.compare gs).trans h.perm
  case created => exact fun hnone => absurd hnone (Option.some_ne_none o)
  case ordered =>
    intro o' ho'
    rw [Option.mem_some_iff] at ho'
    subst ho'
    have hnames := (h.perm.map TestGroup.name).nodup_iff.mpr (nodup_kept tests filters)
    exact TestGroup.sorted_pairwise_lt o gs hnames

/-- A filter joins the others and leaves the order as it is. -/
theorem normal_filtered (f : NameFilter) (h : Normal tests filters order gs) :
    Normal tests (filters ++ [f]) order (TestGroup.filtered f gs) := by
  have hkept : kept tests (filters ++ [f]) = TestGroup.filtered f (kept tests filters) := by
    rw [kept, kept, TestGroup.filtered, List.filter_filter]
    refine List.filter_congr fun g _ => ?_
    rw [List.all_append, List.all_cons, List.all_nil, Bool.and_true, Bool.and_comm]
  constructor
  case perm =>
    rw [hkept]
    exact h.perm.filter _
  case created =>
    intro hnone
    rw [hkept, h.created hnone]
  case ordered => exact fun o ho => (h.ordered o ho).filter _

/-- There is one normal list for the same filters and the same order. -/
theorem normal_unique (filters' : List NameFilter) (gs' : List TestGroup)
    (hsame : ∀ f, f ∈ filters ↔ f ∈ filters') (h : Normal tests filters order gs)
    (h' : Normal tests filters' order gs') : gs = gs' := by
  have hkept : kept tests filters = kept tests filters' := by
    refine List.filter_congr fun g _ => ?_
    rw [Bool.eq_iff_iff, List.all_eq_true, List.all_eq_true]
    exact forall_congr' fun f => by rw [hsame]
  cases order with
  | none => rw [h.created rfl, h'.created rfl, hkept]
  | some o =>
      -- Two arrangements of the same groups, both strictly ascending.
      have hperm : gs.Perm gs' := (h.perm.trans (hkept ▸ List.Perm.refl _)).trans h'.perm.symm
      refine List.Perm.eq_of_pairwise (fun a b _ _ hab hba => ?_) (h.ordered o rfl)
        (h'.ordered o rfl) hperm
      exact absurd hba (Std.OrientedCmp.not_lt_of_lt hab)

end Normal

/-! ### Runs -/

section Runs

variable (p : TestListPage) (steps : List Step)

theorem run_append (later : List Step) : p.run (steps ++ later) = (p.run steps).run later := by
  rw [run, run, run, List.foldl_append]

/-- A run changes nothing but the groups. -/
theorem run_eq : p.run steps = { p with groups := (p.run steps).groups } := by
  induction steps using List.reverseRecOn with
  | nil => rfl
  | append_singleton steps s ih =>
      rw [run_append, ih]
      cases s <;> rfl

end Runs

/-- A run ends in a normal list. -/
theorem run_is_normal (formUrl : Url) (tests : List TestRecord) (steps : List Step) :
    Normal tests (filtersOf steps) (lastOrder steps)
      ((ofTests formUrl tests).run steps).groups := by
  -- The normal form asks for the last order, so the induction takes the last step away.
  induction steps using List.reverseRecOn with
  | nil =>
      have hall : kept tests [] = TestGroup.ofTests tests := List.filter_true _
      refine ⟨hall ▸ List.Perm.refl _, fun _ => hall.symm, fun o ho => ?_⟩
      exact absurd ho (by simp only [lastOrder, List.filterMap_nil, List.getLast?_nil,
        Option.mem_def, reduceCtorEq, not_false_eq_true])
  | append_singleton steps s ih =>
      rw [run_append]
      cases s with
      | sort o =>
          have hfilters : filtersOf (steps ++ [.sort o]) = filtersOf steps := by
            rw [filtersOf, List.filterMap_append]
            exact List.append_nil _
          have hlast : lastOrder (steps ++ [.sort o]) = some o := by
            rw [lastOrder, List.filterMap_append]
            exact List.getLast?_concat
          rw [hfilters, hlast]
          exact normal_sorted tests _ _ _ o ih
      | filter f =>
          have hfilters : filtersOf (steps ++ [.filter f]) = filtersOf steps ++ [f] :=
            List.filterMap_append
          have hlast : lastOrder (steps ++ [.filter f]) = lastOrder steps := by
            rw [lastOrder, List.filterMap_append]
            exact congrArg List.getLast? (List.append_nil _)
          rw [hfilters, hlast]
          exact normal_filtered tests _ _ _ f ih

/-- A filter can go before a sort or after it. -/
theorem filtered_sorted (cmp : TestGroup → TestGroup → Ordering) [Std.TransCmp cmp]
    (f : NameFilter) (p : TestListPage) :
    (p.sorted cmp).filtered f = (p.filtered f).sorted cmp := by
  have hgroups : TestGroup.filtered f (TestGroup.sorted cmp p.groups)
      = TestGroup.sorted cmp (TestGroup.filtered f p.groups) :=
    TestGroup.filter_sorted cmp _ p.groups
  simp only [sorted, filtered, hgroups]

/-- Any run of sorts and filters over the groups of some records has one normal form: the groups
    that all filters keep, in the order of the last sort. Another run with the same filters and the
    same last order ends in the same list. For any other comparison that is an order, sorting and
    filtering can change places. -/
theorem run_normal (formUrl : Url) (tests : List TestRecord) (steps : List Step) :
    let page := (ofTests formUrl tests).run steps
    Normal tests (filtersOf steps) (lastOrder steps) page.groups ∧
    page = { ofTests formUrl tests with groups := page.groups } ∧
    (∀ steps', (∀ f, f ∈ filtersOf steps ↔ f ∈ filtersOf steps') →
      lastOrder steps = lastOrder steps' → (ofTests formUrl tests).run steps' = page) ∧
    ∀ (cmp : TestGroup → TestGroup → Ordering), Std.TransCmp cmp →
      ∀ (f : NameFilter) (p : TestListPage),
        (p.sorted cmp).filtered f = (p.filtered f).sorted cmp := by
  intro page
  have hpage := run_eq (ofTests formUrl tests) steps
  refine ⟨run_is_normal formUrl tests steps, hpage, fun steps' hsame hlast => ?_, ?_⟩
  · have hnormal' := run_is_normal formUrl tests steps'
    rw [← hlast] at hnormal'
    have hgroups := normal_unique tests _ _ _ _ _ hsame (run_is_normal formUrl tests steps) hnormal'
    rw [run_eq, ← hgroups, ← hpage]
  · intro cmp _ f p
    exact filtered_sorted cmp f p

/-- Groups with more members come first. -/
def bySize (a b : TestGroup) : Ordering :=
  Ord.compare b.tests.length a.tests.length

/-- Two runs over four records, with the same filter and the same last order. The filter keeps the
    names that begin with a letter up to `k`. -/
theorem run_normal_table :
    let tests : List TestRecord := [
      { id := 1, displayName := "login", status := .error },
      { id := 2, displayName := "checkout", status := .pass },
      { id := 3, displayName := "admin", status := .pass },
      { id := 4, displayName := "checkout", status := .fail }]
    let f : NameFilter := ⟨.seq (.look .textStart) (.char (.interval 'a' 'k'))⟩
    let steps := [Step.sort .name, .filter f, .sort .priority]
    let steps' := [Step.filter f, .sort .priority, .filter f]
    let start := ofTests { scheme := "http", path := "/tests" } tests
    (kept tests (filtersOf steps)).map TestGroup.name = ["checkout", "admin"] ∧
    Normal tests (filtersOf steps) (lastOrder steps) (start.run steps).groups ∧
    (∀ g, g ∈ filtersOf steps ↔ g ∈ filtersOf steps') ∧ lastOrder steps = lastOrder steps' ∧
    start.run steps' = start.run steps ∧
    Std.TransCmp bySize ∧
    (start.sorted bySize).filtered f = (start.filtered f).sorted bySize := by
  intro tests f steps steps' start
  have hsame : ∀ g, g ∈ filtersOf steps ↔ g ∈ filtersOf steps' := by
    intro g
    have hg : g ∈ [f] ↔ g ∈ [f, f] := by
      simp only [List.mem_cons, List.not_mem_nil, or_false, or_self]
    exact hg
  have hsize : Std.TransCmp bySize :=
    inferInstanceAs <| Std.TransCmp fun a b => compareOn (fun g : TestGroup => g.tests.length) b a
  rcases run_normal { scheme := "http", path := "/tests" } tests steps with
    ⟨hnormal, -, hruns, hsorts⟩
  exact ⟨by decide +kernel, hnormal, hsame, rfl, hruns steps' hsame rfl, hsize,
    hsorts bySize hsize f start⟩

end TestListPage

end RunReport
