import Mathlib.Algebra.GroupWithZero.Nat
import RunReport.Proofs.Collector
import RunReport.Suite

/-!
# The Lines of Suites as a Partition

What the line of a suite says about its tests, and that the lines together say it of every test.

A line is built up test by test: it has seven counters, a span that stops growing at the longest
one, and the number of the first suite it hears of. Each of them forgets the tests it was made from,
so `Summarizes` keeps the tests beside the line and says what every part of it must be. It holds of
an empty line and no tests (`summarizes_empty`), and one more test keeps it (`summarizes_add`), so
it holds of any line and the tests it was built from.

The counters by outcome have an invariant of their own, `Counts`, since they do not depend on the
highlighter. `totals_add` is the only place where the counting is opened. It gives the counters
after one more test as sums, so the step needs no cases.

The saturated span is the sum cut off at the longest span, although it is cut off after every test:
nothing is taken away again, so a sum that was too long once stays too long.

## Main definitions

* `Span.longest`: The nanoseconds of the longest span.
* `SuiteTotals.Counts`: Counters count some tests by outcome.
* `SuiteTotals.isOpen`: A test without an outcome.
* `SuiteSummary.nanosOf`: The nanoseconds that a test took.
* `SuiteSummary.summing`: How records are collected into lines.
* `SuiteSummary.Summarizes`: A line says what it should about some tests.

## Theorems

* `nanos_ofNanos`: A span is cut off at the longest one.
* `add_eq`: The counters after one more test.
* `countP_concat`: One more element is counted if it is of the kind that is counted.
* `counts_empty`, `counts_add`: The invariant of the counters by outcome.
* `countP_outcomes`: The kinds of outcomes and the open tests split a list.
* `outcomes_add_up`: Every test is counted under one outcome or has none.
* `isIncomplete_iff`: Counters are incomplete if a test has no outcome.
* `suiteId_concat`: The number of the first suite after one more test.
* `summarizes_empty`, `summarizes_add`: The invariant of a line.
* `summarizes_ofBucket`: The line of a bucket summarizes its members.
* `name_ofBucket`: The name of a line is the key of its bucket.
* `ofTests_eq`: The lines of some tests in closed form.
* `ofTests_summarizes`: The lines are a partition of the tests.
-/

namespace RunReport

namespace Span

/-- The nanoseconds of the longest span, one less than 2⁶⁴ seconds have. -/
def longest : Nat :=
  Word.count * 1000000000 - 1

/-- A span is cut off at the longest one. -/
theorem nanos_ofNanos (n : Nat) : (ofNanos n).nanos = min longest n := by
  unfold ofNanos longest
  by_cases h : n < Word.count * 1000000000
  · rw [dif_pos h]
    simp only
    omega
  · rw [dif_neg h]
    simp only
    omega

end Span

namespace SuiteTotals

/-- The counters after one more test: each is raised by one if the test is of its kind. -/
theorem add_eq (c : SuiteTotals) (s : Status) (isLong : Bool) :
    c.add s isLong =
      { passing := c.passing + if s = .pass then 1 else 0
        failing := c.failing + if s = .fail ∨ s = .error then 1 else 0
        skipped := c.skipped + if s = .skip then 1 else 0
        blacklisted := c.blacklisted + if s = .blacklist then 1 else 0
        killed := c.killed + if s = .kill then 1 else 0
        long := c.long + if isLong then 1 else 0
        total := c.total + 1 } := by
  cases s <;> cases isLong <;> rfl

/-- Counters count some tests by outcome. -/
structure Counts (members : List TestRecord) (c : SuiteTotals) : Prop where
  total : c.total = members.length
  passing : c.passing = members.countP fun t => t.status = .pass
  failing : c.failing = members.countP fun t => t.status = .fail ∨ t.status = .error
  skipped : c.skipped = members.countP fun t => t.status = .skip
  blacklisted : c.blacklisted = members.countP fun t => t.status = .blacklist
  killed : c.killed = members.countP fun t => t.status = .kill

theorem counts_empty : Counts [] {} :=
  ⟨rfl, rfl, rfl, rfl, rfl, rfl⟩

/-- One more element is counted if it is of the kind that is counted. -/
theorem countP_concat {α : Type} (p : α → Prop) [DecidablePred p] (xs : List α) (x : α) :
    (xs ++ [x]).countP (fun a => p a) = xs.countP (fun a => p a) + if p x then 1 else 0 := by
  rw [List.countP_append, List.countP_singleton]
  simp only [decide_eq_true_eq]

/-- One more test keeps the counters by outcome right, whether it was long or not. -/
theorem counts_add (members : List TestRecord) (c : SuiteTotals) (t : TestRecord) (isLong : Bool)
    (hc : Counts members c) : Counts (members ++ [t]) (c.add t.status isLong) := by
  rw [add_eq]
  constructor
  case total => rw [hc.total, List.length_append, List.length_singleton]
  case passing => rw [hc.passing, countP_concat]
  case failing => rw [hc.failing, countP_concat]
  case skipped => rw [hc.skipped, countP_concat]
  case blacklisted => rw [hc.blacklisted, countP_concat]
  case killed => rw [hc.killed, countP_concat]

/-- A test without an outcome. -/
def isOpen (t : TestRecord) : Bool :=
  t.status = .running ∨ t.status = .pending ∨ t.status = .unknown

/-- The kinds of outcomes and the open tests split a list: every status is of one kind only. -/
theorem countP_outcomes (ts : List TestRecord) :
    (ts.countP fun t => t.status = .pass)
      + (ts.countP fun t => t.status = .fail ∨ t.status = .error)
      + (ts.countP fun t => t.status = .skip) + (ts.countP fun t => t.status = .blacklist)
      + (ts.countP fun t => t.status = .kill) + ts.countP isOpen = ts.length := by
  induction ts with
  | nil => rfl
  | cons t ts ih =>
      simp only [List.countP_cons, List.length_cons, decide_eq_true_eq, isOpen]
      cases t.status <;>
        simp only [reduceCtorEq, or_self, or_false, or_true, if_true, if_false] <;> omega

/-- Every test is counted under one outcome or has none. -/
theorem outcomes_add_up (members : List TestRecord) (c : SuiteTotals) (hc : Counts members c) :
    c.completed + members.countP isOpen = c.total := by
  rw [completed, hc.passing, hc.failing, hc.skipped, hc.blacklisted, hc.killed, hc.total]
  exact countP_outcomes members

/-- Counters are incomplete if a test has no outcome. -/
theorem isIncomplete_iff (members : List TestRecord) (c : SuiteTotals) (hc : Counts members c) :
    c.isIncomplete ↔
      ∃ t ∈ members, t.status = .running ∨ t.status = .pending ∨ t.status = .unknown := by
  have hsum := outcomes_add_up members c hc
  have hopen : 0 < members.countP isOpen ↔ c.completed < c.total := by omega
  rw [isIncomplete, decide_eq_true_eq, ← hopen, List.countP_pos_iff]
  simp only [isOpen, decide_eq_true_eq]

end SuiteTotals

namespace SuiteSummary

/-- The nanoseconds that a test took, 0 if that is not known. -/
def nanosOf (t : TestRecord) : Nat :=
  (t.elapsed?.map Span.nanos).getD 0

/-- A line says what it should about some tests. -/
structure Summarizes (h : Highlighter) (members : List TestRecord) (s : SuiteSummary) : Prop where
  counts : s.totals.Counts members
  long : s.totals.long = members.countP h.isLongRunning
  suiteId : s.suiteId = ((members.find? (·.suiteId ≠ 0)).map TestRecord.suiteId).getD 0
  elapsed : s.elapsed.nanos = min Span.longest (members.map nanosOf).sum

theorem summarizes_empty (h : Highlighter) (name : String) : Summarizes h [] (empty name) := by
  refine ⟨SuiteTotals.counts_empty, rfl, rfl, ?_⟩
  rw [List.map_nil, List.sum_nil, Nat.min_zero]
  rfl

/-- The number of the first suite is the one that was there, or else that of the new test. -/
theorem suiteId_concat (members : List TestRecord) (t : TestRecord) :
    (((members ++ [t]).find? (·.suiteId ≠ 0)).map TestRecord.suiteId).getD 0
      = if ((members.find? (·.suiteId ≠ 0)).map TestRecord.suiteId).getD 0 = 0 then t.suiteId
        else ((members.find? (·.suiteId ≠ 0)).map TestRecord.suiteId).getD 0 := by
  rw [List.find?_append]
  cases hfirst : members.find? (·.suiteId ≠ 0) with
  | none =>
      rw [Option.none_or, Option.map_none, Option.getD_none, if_pos rfl]
      by_cases ht : t.suiteId = 0
      · simp only [List.find?_cons, ht, ne_eq, not_true_eq_false, decide_false, List.find?_nil,
          Option.map_none, Option.getD_none]
      · simp only [List.find?_cons, ht, ne_eq, not_false_eq_true, decide_true, Option.map_some,
          Option.getD_some]
  | some r =>
      have hr : r.suiteId ≠ 0 := by simpa only [decide_eq_true_eq] using List.find?_some hfirst
      rw [Option.some_or, Option.map_some, Option.getD_some, if_neg hr]

/-- One more test keeps a line right. -/
theorem summarizes_add (h : Highlighter) (members : List TestRecord) (s : SuiteSummary)
    (t : TestRecord) (hs : Summarizes h members s) :
    Summarizes h (members ++ [t]) (s.add h t) := by
  constructor
  case counts => exact SuiteTotals.counts_add members s.totals t (h.isLongRunning t) hs.counts
  case long =>
    rw [add, SuiteTotals.add_eq, hs.long, List.countP_append, List.countP_singleton]
  case suiteId => rw [add, hs.suiteId, suiteId_concat]
  case elapsed =>
    have hnanos : (t.elapsed?.getD .zero).nanos = nanosOf t := by
      unfold nanosOf
      cases t.elapsed? <;> rfl
    -- Cutting off before the last span is added makes no difference after cutting off again.
    rw [add, Span.add, Span.nanos_ofNanos, hs.elapsed, hnanos, List.map_append, List.sum_append,
      List.map_singleton, List.sum_singleton]
    omega

/-- How records are collected into lines. -/
def summing (h : Highlighter) : Collector String TestRecord SuiteSummary where
  key := nameOf
  name := SuiteSummary.name
  empty := SuiteSummary.empty
  add := SuiteSummary.add h
  name_empty := fun _ => rfl
  name_add := fun _ _ => rfl

/-- The line of a bucket summarizes its members. -/
theorem summarizes_ofBucket (h : Highlighter) (b : Bucket String TestRecord) :
    Summarizes h b.members (ofBucket h b) := by
  unfold ofBucket
  -- The last member is the last to be counted, so the induction is on the end of the list.
  induction b.members using List.reverseRecOn with
  | nil => exact summarizes_empty h b.key
  | append_singleton members t ih =>
      rw [List.foldl_append, List.foldl_cons, List.foldl_nil]
      exact summarizes_add h members _ t ih

/-- The name of a line is the key of its bucket, since no test changes it. -/
theorem name_ofBucket (h : Highlighter) (b : Bucket String TestRecord) :
    (ofBucket h b).name = b.key :=
  (summing h).name_line b

/-- The lines of some tests in closed form. -/
theorem ofTests_eq (h : Highlighter) (tests : List TestRecord) :
    ofTests h tests
      = (tests.map nameOf).eraseDups.map fun n => ofBucket h (Bucket.gather nameOf tests n) := by
  rw [ofTests, Bucket.ofList_eq, List.map_map]
  rfl

/-- The lines are a partition of the tests. Their names are those of the tests, each where it first
    occurs, and a line summarizes the tests of its name. So every test is counted in one line, no
    part of a line is more than its total, and a line is incomplete if a test of it has no
    outcome. A walk over the tests that looks up the line of each in an index has these lines. -/
theorem ofTests_summarizes (h : Highlighter) (tests : List TestRecord) :
    (ofTests h tests).map SuiteSummary.name = (tests.map nameOf).eraseDups ∧
    ((ofTests h tests).map SuiteSummary.name).Nodup ∧
    (∀ s ∈ ofTests h tests, Summarizes h (tests.filter (nameOf · = s.name)) s) ∧
    ((ofTests h tests).map fun s => s.totals.total).sum = tests.length ∧
    (∀ s ∈ ofTests h tests,
      s.totals.completed ≤ s.totals.total ∧ s.totals.long ≤ s.totals.total ∧
      (s.totals.isIncomplete ↔ ∃ t ∈ tests, nameOf t = s.name ∧
        (t.status = .running ∨ t.status = .pending ∨ t.status = .unknown))) ∧
    ((summing h).indexed tests).lines = ofTests h tests := by
  have hnames : (ofTests h tests).map SuiteSummary.name = (tests.map nameOf).eraseDups := by
    rw [ofTests, List.map_map, ← Bucket.map_key_ofList]
    exact List.map_congr_left fun b _ => name_ofBucket h b
  have hlines : ∀ s ∈ ofTests h tests, Summarizes h (tests.filter (nameOf · = s.name)) s := by
    intro s hs
    rw [ofTests_eq] at hs
    rcases List.mem_map.mp hs with ⟨n, _, rfl⟩
    rw [name_ofBucket]
    exact summarizes_ofBucket h (Bucket.gather nameOf tests n)
  refine ⟨hnames, hnames ▸ Bucket.nodup_eraseDups _, hlines, ?_, fun s hs => ⟨?_, ?_, ?_⟩,
    (summing h).lines_indexed tests⟩
  · -- The total of a line is the number of members of its bucket.
    rw [← (Bucket.flatMap_members_perm nameOf tests).length_eq, List.length_flatMap, ofTests,
      List.map_map]
    exact congrArg List.sum (List.map_congr_left fun b _ => (summarizes_ofBucket h b).counts.total)
  · have hsum := SuiteTotals.outcomes_add_up _ s.totals (hlines s hs).counts
    omega
  · -- Being long is independent of the outcome, so it is bounded by the members alone.
    rw [(hlines s hs).long, (hlines s hs).counts.total]
    exact List.countP_le_length
  · rw [SuiteTotals.isIncomplete_iff _ s.totals (hlines s hs).counts]
    simp only [List.mem_filter, decide_eq_true_eq, and_assoc]

end SuiteSummary

end RunReport
