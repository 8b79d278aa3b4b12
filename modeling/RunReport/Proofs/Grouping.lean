import RunReport.Page.SuiteList
import RunReport.Page.TestList
import RunReport.Proofs.Listing
import RunReport.Proofs.SuiteTotals

/-!
# Groups and Suites of Records

What grouping does to a list of records, and that filters can go before it or after it.

Groups and suites are collected in the same way under different names. A group keeps its records, a
suite only the totals of them, so of a suite nothing can be said by looking at what it has become.
Both are a `Collector`, and what does not depend on the lines is shown there: more records join the
groups one by one, an index of the groups does not change them, and a filter takes whole lines away.
A suite that a filter keeps is the one that it would be if no other record had been there, because
no record of another suite ever reached it.

A group also gives its records back. That is why the groups of a list can be put together again and
sorted a second time without a change, although the list they make is another one than that of the
file.

## Main definitions

* `TestGroup.grouping`: How records are collected into groups.

## Theorems

* `ofTests_eq_collect`: Groups are collected records, and so are suites.
* `ofTests_regroup`: The records of all groups, group by group, have the same groups.
* `sum_length_tests`: Every record is in one group.
* `ofTests_partition`: Grouping is a partition of the records.
* `filtered_ofTests`: A filter on the records is one on the groups, and so for suites.
-/

namespace RunReport

namespace TestGroup

/-- How records are collected into groups. -/
def grouping : Collector String TestRecord TestGroup where
  key := TestRecord.displayName
  name := TestGroup.name
  empty := TestGroup.empty
  add := TestGroup.add
  name_empty := fun _ => rfl
  name_add := fun _ _ => rfl

/-- The group of a bucket is what its records make one by one. -/
theorem line_grouping (b : Bucket String TestRecord) : grouping.line b = ofBucket b := by
  rcases b with ⟨name, ts⟩
  induction ts using List.reverseRecOn with
  | nil => rfl
  | append_singleton ts t ih =>
      rw [Collector.line_concat, ih]
      rfl

theorem ofTests_eq_collect (tests : List TestRecord) : ofTests tests = grouping.collect tests :=
  List.map_congr_left fun b _ => (line_grouping b).symm

/-- The records of all groups, group by group, have the same groups. -/
theorem ofTests_regroup (tests : List TestRecord) :
    ofTests ((ofTests tests).flatMap TestGroup.tests) = ofTests tests := by
  have hmembers : (ofTests tests).flatMap TestGroup.tests
      = (Bucket.ofList TestRecord.displayName tests).flatMap Bucket.members := by
    rw [ofTests, List.flatMap_map]
    rfl
  rw [hmembers, ofTests,
    Bucket.ofList_flatMap_members _ _ (Bucket.wellSorted_ofList TestRecord.displayName tests)]
  rfl

/-- Every record is in one group. -/
theorem sum_length_tests (tests : List TestRecord) :
    ((ofTests tests).map fun g => g.tests.length).sum = tests.length := by
  rw [← (Bucket.flatMap_members_perm TestRecord.displayName tests).length_eq,
    List.length_flatMap, ofTests, List.map_map]
  rfl

/-- Grouping is a partition of the records. Each display name has one group, where it first occurs,
    and the group has the records of that name in their order. So no record is lost, the groups are
    those of their own records, and more records join them one by one, with an index of the groups
    or without. -/
theorem ofTests_partition (tests : List TestRecord) :
    let groups := ofTests tests
    groups.map TestGroup.name = (tests.map TestRecord.displayName).eraseDups ∧
    (groups.map TestGroup.name).Nodup ∧
    (∀ g ∈ ofTests tests, g.tests ≠ [] ∧ g.tests = tests.filter (·.displayName = g.name)) ∧
    (groups.map fun g => g.tests.length).sum = tests.length ∧
    ofTests (groups.flatMap TestGroup.tests) = groups ∧
    (∀ more, ofTests (tests ++ more) = more.foldl grouping.join groups) ∧
    (grouping.indexed tests).lines = groups := by
  intro groups
  have hnames : (ofTests tests).map TestGroup.name
      = (tests.map TestRecord.displayName).eraseDups := by
    rw [ofTests_eq_collect]
    exact grouping.map_name_collect tests
  refine ⟨hnames, Listing.ofTests_nodup tests, fun g hg => ?_, sum_length_tests tests,
    ofTests_regroup tests, fun more => ?_, ?_⟩
  · refine ⟨Listing.ofTests_inhabited tests g hg, ?_⟩
    rw [Listing.ofTests_eq] at hg
    rcases List.mem_map.mp hg with ⟨name, -, rfl⟩
    rfl
  · rw [ofTests_eq_collect, Collector.collect_append, ← ofTests_eq_collect]
  · rw [Collector.lines_indexed, ← ofTests_eq_collect]

end TestGroup

namespace SuiteSummary

theorem ofTests_eq_collect (h : Highlighter) (tests : List TestRecord) :
    ofTests h tests = (summing h).collect tests :=
  rfl

end SuiteSummary

/-- A filter can go before grouping or after it. The groups that it keeps are those of the records
    whose display names it keeps. The suites that it keeps are those of the records that are counted
    under a name that it keeps, with all that the lines say, and so are the pages of both. -/
theorem NameFilter.filtered_ofTests (f : NameFilter) (h : Highlighter) (formUrl : Url)
    (tests : List TestRecord) :
    let named := tests.filter fun t => f.accepts t.displayName
    let counted := tests.filter fun t => f.accepts (SuiteSummary.nameOf t)
    TestGroup.filtered f (TestGroup.ofTests tests) = TestGroup.ofTests named ∧
    ((SuiteListPage.ofTests formUrl tests h).filtered f).suites = SuiteSummary.ofTests h counted ∧
    (TestListPage.ofTests formUrl tests).filtered f = TestListPage.ofTests formUrl named ∧
    (SuiteListPage.ofTests formUrl tests h).filtered f
      = SuiteListPage.ofTests formUrl counted h := by
  intro named counted
  have hgroups : TestGroup.filtered f (TestGroup.ofTests tests) = TestGroup.ofTests named := by
    rw [TestGroup.ofTests_eq_collect, TestGroup.ofTests_eq_collect]
    exact TestGroup.grouping.collect_filter f.accepts tests
  have hsuites : SuiteSummary.filtered f (SuiteSummary.ofTests h tests)
      = SuiteSummary.ofTests h counted := by
    rw [SuiteSummary.ofTests_eq_collect, SuiteSummary.ofTests_eq_collect]
    exact (SuiteSummary.summing h).collect_filter f.accepts tests
  refine ⟨hgroups, hsuites, ?_, ?_⟩
  · rw [TestListPage.filtered, TestListPage.ofTests, hgroups]
    rfl
  · rw [SuiteListPage.filtered, SuiteListPage.ofTests, hsuites]
    rfl

end RunReport
