import RunReport.Page.TestHistory
import RunReport.Proofs.ElapsedTime
import RunReport.Proofs.Listing

/-!
# Long Running Tests

Which tests are long running, and that every view has the same ones.

The time of a test is known to the nanosecond, and so is the threshold, but the two are compared in
whole milliseconds. A test that is over the threshold within the same millisecond is not long
running (`long_running_within_millisecond`). A test without a time counts as one of no milliseconds.
That does no harm, since no threshold is below none (`isLongRunning_iff`), so a test that is marked
for its time has a time to show.

A test is looked at in three places. A row of the list takes the class of its time cell from the
highlight of the duration or from the shade of its group, a row of the history from the highlight or
from the class of the whole row, which a failure or the time itself may have set, and a line of
suites has a counter. In each of them the class `timingColumn` comes from the highlight alone,
because no other class of a row is called so (`timeClass_list`, `timeClass_history`). The rest is to
see that every shown record has a row (`forall₂_rows`), and that a line counts its members
(`long_of_mem`).

## Main definitions

* `Page.MarksTime`: The time cell of a record is marked as it should be.

## Theorems

* `Span.millis_lt_iff`: Comparing whole milliseconds.
* `Highlighter.isLongRunning_iff`: Long running tests have a time, and it is over the threshold.
* `Highlighter.duration_eq_some_iff`: When a duration is highlighted.
* `columnClass_eq_timing_iff`: No other highlight has the class of a long time.
* `Page.marksTime_of_timeClass`: A cell with the right class is marked as it should be.
* `TestListPage.timeClass_list`, `TestListPage.forall₂_rows`: The time cells of the list.
* `TestHistoryPage.timeClass_history`: The time cells of the history.
* `SuiteSummary.long_of_mem`, `SuiteSummary.sum_long`: The counters of suites.
* `Highlighter.long_running_everywhere`: All views have the same long running tests.
* `Highlighter.long_running_within_millisecond`: A test that is over the threshold by less than a
  millisecond.
-/

namespace RunReport

/-- A span has more whole milliseconds than another if it is longer and not in the same one. -/
theorem Span.millis_lt_iff (a b : Span) :
    a.millis < b.millis ↔ a.nanos < b.nanos ∧ b.millis ≠ a.millis := by
  unfold millis
  omega

namespace Highlighter

/-- A long running test has a time, and it is over the threshold in whole milliseconds. -/
theorem isLongRunning_iff (h : Highlighter) (t : TestRecord) :
    h.isLongRunning t ↔ ∃ d, t.elapsed? = some d ∧ h.longRunning.millis < d.millis := by
  unfold isLongRunning TestRecord.elapsedMillis
  cases t.elapsed? with
  | none =>
      -- No time counts as no milliseconds, and these are never too many.
      simp only [Option.map_none, Option.getD_none, Nat.not_lt_zero, decide_false,
        Bool.false_eq_true, reduceCtorEq, false_and, exists_false]
  | some d =>
      simp only [Option.map_some, Option.getD_some, decide_eq_true_eq, Option.some.injEq,
        exists_eq_left']

/-- A duration is highlighted for long running tests, if failing tests are. -/
theorem duration_eq_some_iff (h : Highlighter) (t : TestRecord) (mark : Highlight) :
    (h.classify t).duration = some mark ↔
      (h.criteria = .failing ∧ h.isLongRunning t) ∧ mark = .timing := by
  have hallows : h.criteria.allows .timing ↔ h.criteria = .failing := by
    cases h.criteria <;> decide
  unfold classify
  cases hlong : h.isLongRunning t with
  | false =>
      simp only [Bool.false_eq_true, if_false, Option.filter_none, reduceCtorEq, and_false,
        false_and]
  | true =>
      simp only [if_true, and_true, ← hallows]
      rw [Option.filter_eq_some_iff, Option.some.injEq]
      constructor
      · rintro ⟨rfl, hmark⟩
        exact ⟨hmark, rfl⟩
      · rintro ⟨hmark, rfl⟩
        exact ⟨rfl, hmark⟩

end Highlighter

theorem columnClass_eq_timing_iff (mark : Highlight) :
    mark.columnClass = Highlight.timing.columnClass ↔ mark = .timing := by
  cases mark <;> decide

/-- The time cell of a record is marked if its highlighter says so, and has its time to show. -/
def Page.MarksTime (h : Highlighter) (t : TestRecord) (timeClass elapsed : String) : Prop :=
  (timeClass = Highlight.timing.columnClass ↔ h.criteria = .failing ∧ h.isLongRunning t) ∧
    elapsed = elapsedText t ∧ (h.isLongRunning t → elapsed ≠ blank)

/-- A cell that shows the time of a record is not blank if the record is marked. -/
theorem Page.marksTime_of_timeClass (h : Highlighter) (t : TestRecord) (timeClass : String)
    (hclass : timeClass = Highlight.timing.columnClass ↔
      (h.classify t).duration = some .timing) :
    MarksTime h t timeClass (elapsedText t) := by
  refine ⟨?_, rfl, fun hlong hblank => ?_⟩
  · rw [hclass, Highlighter.duration_eq_some_iff, and_iff_left rfl]
  · rcases (h.isLongRunning_iff t).mp hlong with ⟨d, hd, -⟩
    rw [(elapsedText_eq_blank_iff t).mp hblank] at hd
    cases hd

namespace TestListPage

/-- The shade of a group is not the class of a long time. -/
theorem timeClass_list (number : Nat) (mark : Option Highlight) :
    (mark.map Highlight.columnClass).getD (shade number) = Highlight.timing.columnClass ↔
      mark = some .timing := by
  cases mark with
  | none =>
      rw [Option.map_none, Option.getD_none, shade]
      split <;> decide
  | some h => rw [Option.map_some, Option.getD_some, columnClass_eq_timing_iff, Option.some.injEq]

/-- Every record that is shown has a row, in the order in which they are shown. -/
theorem forall₂_rows (p : TestListPage) (R : TestRecord → TestListRow → Prop)
    (hR : ∀ number rowspan g isFirst t, R t (p.row number rowspan g isFirst t)) :
    List.Forall₂ R (p.groups.flatMap p.shown) p.rows := by
  have hgroup : ∀ number g, List.Forall₂ R (p.shown g) (p.groupRows number g) := by
    intro number g
    unfold groupRows
    cases p.shown g with
    | nil => exact .nil
    | cons t ts =>
        -- The first row of a group also spans the others, which makes no difference here.
        refine .cons (hR _ _ g true t) ?_
        rw [List.forall₂_map_right_iff, List.forall₂_same]
        exact fun u _ => hR _ _ g false u
  have hfrom : ∀ gs number, List.Forall₂ R (gs.flatMap p.shown) (p.rowsFrom number gs) := by
    intro gs
    induction gs with
    | nil => exact fun _ => .nil
    | cons g gs ih =>
        intro number
        rw [List.flatMap_cons, rowsFrom]
        exact List.rel_append (hgroup number g) (ih (number + 1))
  exact hfrom p.groups 1

end TestListPage

namespace TestHistoryPage

/-- No class of a row is that of a long time, so the time cell has it from its own highlight. -/
theorem timeClass_history (c : Classification) :
    (HistoryRowClasses.ofClassification c).time = Highlight.timing.columnClass ↔
      c.duration = some .timing := by
  unfold HistoryRowClasses.ofClassification
  cases c.duration with
  | none =>
      cases c.status with
      | none => decide
      | some mark => cases mark <;> decide
  | some mark => rw [Option.some.injEq, ← columnClass_eq_timing_iff]

end TestHistoryPage

namespace SuiteSummary

/-- A line counts the long running tests of its name. -/
theorem long_of_mem (h : Highlighter) (tests : List TestRecord) (s : SuiteSummary)
    (hs : s ∈ ofTests h tests) :
    s.totals.long = (tests.filter (nameOf · = s.name)).countP h.isLongRunning := by
  rw [ofTests_eq] at hs
  rcases List.mem_map.mp hs with ⟨n, -, rfl⟩
  rw [name_ofBucket]
  exact (summarizes_ofBucket h (Bucket.gather nameOf tests n)).long

/-- All lines together count every long running test once. -/
theorem sum_long (h : Highlighter) (tests : List TestRecord) :
    ((ofTests h tests).map fun s => s.totals.long).sum = tests.countP h.isLongRunning := by
  have hlong : ((ofTests h tests).map fun s => s.totals.long)
      = (Bucket.ofList nameOf tests).map (List.countP h.isLongRunning ∘ Bucket.members) := by
    rw [ofTests, List.map_map]
    exact List.map_congr_left fun b _ => (summarizes_ofBucket h b).long
  -- The lines share out the tests, so nothing is counted twice.
  rw [hlong, ← List.countP_flatMap]
  exact (Bucket.flatMap_members_perm nameOf tests).countP_eq _

end SuiteSummary

namespace Highlighter

/-- A test is long running if its time is known and over the threshold in whole milliseconds, that
    is, if it is over the threshold to the nanosecond and not in the same millisecond. The time
    cells of a list and of a history are marked for just these tests, if failing tests are
    highlighted, and are not blank then, and the lines of suites count just these. -/
theorem long_running_everywhere (h : Highlighter) :
    (∀ t : TestRecord,
      (h.isLongRunning t ↔ ∃ d, t.elapsed? = some d ∧ h.longRunning.millis < d.millis) ∧
      (h.isLongRunning t ↔ ∃ d, t.elapsed? = some d ∧ h.longRunning.nanos < d.nanos ∧
        d.millis ≠ h.longRunning.millis)) ∧
    (∀ p : TestListPage, List.Forall₂
      (fun t r => Page.MarksTime p.highlighter t r.timeClass r.elapsed)
      (p.groups.flatMap p.shown) p.rows) ∧
    (∀ p : TestHistoryPage, List.Forall₂
      (fun t r => Page.MarksTime p.highlighter t r.classes.time r.elapsed) p.tests p.rows) ∧
    ∀ tests : List TestRecord,
      (∀ s ∈ SuiteSummary.ofTests h tests, s.totals.long
        = (tests.filter (SuiteSummary.nameOf · = s.name)).countP h.isLongRunning) ∧
      ((SuiteSummary.ofTests h tests).map fun s => s.totals.long).sum
        = tests.countP h.isLongRunning := by
  refine ⟨fun t => ⟨h.isLongRunning_iff t, ?_⟩, fun p => ?_, fun p => ?_, fun tests =>
    ⟨SuiteSummary.long_of_mem h tests, SuiteSummary.sum_long h tests⟩⟩
  · rw [isLongRunning_iff]
    exact exists_congr fun d => and_congr_right fun _ => Span.millis_lt_iff _ d
  · refine p.forall₂_rows _ fun number rowspan g isFirst t => ?_
    exact Page.marksTime_of_timeClass p.highlighter t _ (TestListPage.timeClass_list number _)
  · rw [TestHistoryPage.rows, List.forall₂_map_right_iff, List.forall₂_same]
    exact fun t _ => Page.marksTime_of_timeClass p.highlighter t _
      (TestHistoryPage.timeClass_history _)

/-- A test that ran for half a microsecond more than five minutes. Its time is over the threshold,
    and it is not long running. -/
theorem long_running_within_millisecond :
    let a : Instant := ⟨18414, 43200, 0, by decide, by decide⟩
    let b : Instant := ⟨18414, 43500, 500, by decide, by decide⟩
    let t : TestRecord := { id := 1, displayName := "login", start := some a, finish := some b }
    let h : Highlighter := default
    (∃ d, t.elapsed? = some d ∧ h.longRunning.nanos < d.nanos) ∧
    h.isLongRunning t = false ∧
    ¬ (h.isLongRunning t ↔ ∃ d, t.elapsed? = some d ∧ h.longRunning.nanos < d.nanos) := by
  intro a b t h
  have hover : ∃ d, t.elapsed? = some d ∧ h.longRunning.nanos < d.nanos :=
    ⟨⟨300000000500, by decide⟩, by decide +kernel, by decide +kernel⟩
  have hlong : h.isLongRunning t = false := by decide +kernel
  refine ⟨hover, hlong, fun hiff => ?_⟩
  rw [hiff.mpr hover] at hlong
  cases hlong

end Highlighter

end RunReport
