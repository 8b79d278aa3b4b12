import RunReport.Proofs.SuiteTotals

/-!
# The Status of a Line and its Counters

Why the status of a line of suites can never say anything else than its counters.

The two are kept by different means. A counter is raised by the outcome of the new test alone, but
the status goes through `Status.update`, which looks at the old status too and is not symmetric: of
`error`, `kill` and `blacklist` the last one stays. Nothing in one step relates the two, and an
invariant that names the counters for every status would have to be checked against every entry of
that table.

What the table does is simpler than its entries. Every status has a weight, 0 without an outcome and
4 for the three that nothing weaker can change, and an update has the greater of the two weights
(`weight_update`). So the weight of a line is at most `n` if that is so for every test
(`weight_le_iff`), whatever their order, and for each `n` the tests heavier than `n` are the ones
that some counters count. A status below 4 is given by its weight. The three others share one, and
of them it is enough that a line's status is that of one of its tests (`status_mem`).

Each test may come with a highlighter of its own, since only the counter of long tests depends on
it.

## Main definitions

* `Status.weight`: How much a status weighs against others.
* `SuiteSummary.addAll`: The line of some tests, each counted with its own highlighter.
* `SuiteSummary.Agrees`: What a line's status and its counters say about each other.

## Theorems

* `unfinished_iff`, `eq_pass_iff`, `eq_skip_iff`, `eq_fail_iff`, `failed_iff`: What the weight
  tells about a status.
* `weight_update`: An update has the greater of two weights.
* `update_eq_or`: An update is one of the two statuses.
* `addAll_concat`: The line after one more test.
* `counts_addAll`: The counters of a line count its tests by outcome.
* `weight_le_iff`: A line weighs no more than the heaviest test.
* `status_mem`: The status of a line is that of one of its tests, or it has none.
* `countP_pos_of_status`: Tests of the status of a line are counted wherever they count.
* `open_iff`, `passing_iff`, `skipped_iff`, `errorless_iff`: The counters that are 0 for each bound
  on the weight.
* `addAll_agrees`: The status and the counters of a line agree.
-/

namespace RunReport

namespace Status

/-- How much a status weighs against others: nothing without an outcome, and most if only its own
    kind can change it. -/
def weight : Status → Nat
  | unknown | pending | running => 0
  | pass => 1
  | skip => 2
  | fail => 3
  | error | kill | blacklist => 4

theorem unfinished_iff (s : Status) :
    (s = unknown ∨ s = pending ∨ s = running) ↔ s.weight ≤ 0 := by
  cases s <;> decide

theorem eq_pass_iff (s : Status) : s = pass ↔ s.weight ≤ 1 ∧ ¬ s.weight ≤ 0 := by
  cases s <;> decide

theorem eq_skip_iff (s : Status) : s = skip ↔ s.weight ≤ 2 ∧ ¬ s.weight ≤ 1 := by
  cases s <;> decide

theorem eq_fail_iff (s : Status) : s = fail ↔ s.weight ≤ 3 ∧ ¬ s.weight ≤ 2 := by
  cases s <;> decide

theorem failed_iff (s : Status) :
    (s = fail ∨ s = error ∨ s = kill ∨ s = blacklist) ↔ ¬ s.weight ≤ 2 := by
  cases s <;> decide

/-- An update has the greater of the two weights. -/
theorem weight_update (current reported : Status) :
    (current.update reported).weight = max current.weight reported.weight := by
  cases current <;> cases reported <;> rfl

/-- An update is one of the two statuses. -/
theorem update_eq_or (current reported : Status) :
    current.update reported = current ∨ current.update reported = reported := by
  cases current <;> cases reported <;> decide

end Status

namespace SuiteSummary

/-- The line of some tests, each counted with its own highlighter. -/
def addAll (name : String) (calls : List (Highlighter × TestRecord)) : SuiteSummary :=
  calls.foldl (fun s c => s.add c.1 c.2) (empty name)

theorem addAll_concat (name : String) (calls : List (Highlighter × TestRecord))
    (c : Highlighter × TestRecord) :
    addAll name (calls ++ [c]) = (addAll name calls).add c.1 c.2 := by
  rw [addAll, addAll, List.foldl_append, List.foldl_cons, List.foldl_nil]

section Lines

variable (name : String) (calls : List (Highlighter × TestRecord))

/-- The counters of a line count its tests by outcome, whatever the highlighters. -/
theorem counts_addAll : (addAll name calls).totals.Counts (calls.map Prod.snd) := by
  induction calls using List.reverseRecOn with
  | nil => exact SuiteTotals.counts_empty
  | append_singleton calls c ih =>
      rw [addAll_concat, List.map_append, List.map_singleton]
      exact SuiteTotals.counts_add _ _ c.2 (c.1.isLongRunning c.2) ih

/-- A line weighs no more than the heaviest test. -/
theorem weight_le_iff (n : Nat) :
    (addAll name calls).status.weight ≤ n ↔ ∀ t ∈ calls.map Prod.snd, t.status.weight ≤ n := by
  induction calls using List.reverseRecOn with
  | nil =>
      refine ⟨fun _ t ht => absurd ht List.not_mem_nil, fun _ => ?_⟩
      exact Nat.zero_le n
  | append_singleton calls c ih =>
      rw [addAll_concat, add, Status.weight_update, Nat.max_le, ih, List.map_append,
        List.map_singleton, List.forall_mem_append, List.forall_mem_singleton]

/-- The status of a line is that of one of its tests, or it has none. -/
theorem status_mem :
    (addAll name calls).status = .unknown ∨
      ∃ t ∈ calls.map Prod.snd, t.status = (addAll name calls).status := by
  induction calls using List.reverseRecOn with
  | nil => exact Or.inl rfl
  | append_singleton calls c ih =>
      rw [addAll_concat, add, List.map_append, List.map_singleton]
      rcases Status.update_eq_or (addAll name calls).status c.2.status with hold | hnew
      · -- The status stays, and with it the test that it came from.
        rw [hold]
        rcases ih with hnone | ⟨t, ht, hstatus⟩
        · exact Or.inl hnone
        · exact Or.inr ⟨t, List.mem_append_left _ ht, hstatus⟩
      · rw [hnew]
        exact Or.inr ⟨c.2, List.mem_append_right _ (List.mem_singleton_self _), rfl⟩

/-- Tests of the status of a line are there, so they are counted wherever they count. -/
theorem countP_pos_of_status (p : TestRecord → Prop) [DecidablePred p]
    (hne : (addAll name calls).status ≠ .unknown)
    (hp : ∀ t, t.status = (addAll name calls).status → p t) :
    0 < (calls.map Prod.snd).countP fun t => p t := by
  rcases status_mem name calls with hnone | ⟨t, ht, hstatus⟩
  · exact absurd hnone hne
  · exact List.countP_pos_iff.mpr ⟨t, ht, decide_eq_true (hp t hstatus)⟩

end Lines

section Bounds

variable (members : List TestRecord) (c : SuiteTotals) (hc : c.Counts members)

include hc

/-- No test weighs anything if none has an outcome. -/
theorem open_iff : (∀ t ∈ members, t.status.weight ≤ 0) ↔ c.completed = 0 := by
  have hzero : c.completed = 0 ↔
      c.passing = 0 ∧ c.failing = 0 ∧ c.skipped = 0 ∧ c.blacklisted = 0 ∧ c.killed = 0 := by
    rw [SuiteTotals.completed]
    omega
  rw [hzero, hc.passing, hc.failing, hc.skipped, hc.blacklisted, hc.killed]
  simp only [List.countP_eq_zero, ← forall₂_and]
  refine forall₂_congr fun t _ => ?_
  cases t.status <;> decide

/-- No test weighs more than a passing one if all that have an outcome pass. -/
theorem passing_iff : (∀ t ∈ members, t.status.weight ≤ 1) ↔ c.passing = c.completed := by
  have hzero : c.passing = c.completed ↔
      c.failing = 0 ∧ c.skipped = 0 ∧ c.blacklisted = 0 ∧ c.killed = 0 := by
    rw [SuiteTotals.completed]
    omega
  rw [hzero, hc.failing, hc.skipped, hc.blacklisted, hc.killed]
  simp only [List.countP_eq_zero, ← forall₂_and]
  refine forall₂_congr fun t _ => ?_
  cases t.status <;> decide

/-- No test weighs more than a skipped one if none fails and none was stopped. -/
theorem skipped_iff :
    (∀ t ∈ members, t.status.weight ≤ 2) ↔
      c.failing = 0 ∧ c.blacklisted = 0 ∧ c.killed = 0 := by
  rw [hc.failing, hc.blacklisted, hc.killed]
  simp only [List.countP_eq_zero, ← forall₂_and]
  refine forall₂_congr fun t _ => ?_
  cases t.status <;> decide

/-- No test weighs more than a failing one if none is an error and none was stopped. -/
theorem errorless_iff :
    (∀ t ∈ members, t.status.weight ≤ 3) ↔
      (∀ t ∈ members, t.status ≠ .error) ∧ c.blacklisted = 0 ∧ c.killed = 0 := by
  rw [hc.blacklisted, hc.killed]
  simp only [List.countP_eq_zero, ← forall₂_and]
  refine forall₂_congr fun t _ => ?_
  cases t.status <;> decide

end Bounds

/-- What a line's status and its counters say about each other. -/
structure Agrees (members : List TestRecord) (s : SuiteSummary) : Prop where
  unfinished : (s.status = .unknown ∨ s.status = .pending ∨ s.status = .running) ↔
    s.totals.completed = 0
  pass : s.status = .pass ↔ s.totals.passing = s.totals.completed ∧ 0 < s.totals.completed
  skip : s.status = .skip ↔
    0 < s.totals.skipped ∧ s.totals.failing = 0 ∧ s.totals.blacklisted = 0 ∧ s.totals.killed = 0
  fail : s.status = .fail ↔
    0 < s.totals.failing ∧ s.totals.blacklisted = 0 ∧ s.totals.killed = 0 ∧
      ∀ t ∈ members, t.status ≠ .error
  error : s.status = .error → 0 < s.totals.failing
  kill : s.status = .kill → 0 < s.totals.killed
  blacklist : s.status = .blacklist → 0 < s.totals.blacklisted
  failed : 0 < s.totals.failing + s.totals.blacklisted + s.totals.killed →
    s.status = .fail ∨ s.status = .error ∨ s.status = .kill ∨ s.status = .blacklist

/-- The status and the counters of a line agree, whatever tests it was built from and in whatever
    order they came. -/
theorem addAll_agrees (name : String) (calls : List (Highlighter × TestRecord)) :
    (addAll name calls).Agrees (calls.map Prod.snd) := by
  have hc := counts_addAll name calls
  -- What each bound on the weight of the line says about its counters.
  have h₀ := (weight_le_iff name calls 0).trans (open_iff _ _ hc)
  have h₁ := (weight_le_iff name calls 1).trans (passing_iff _ _ hc)
  have h₂ := (weight_le_iff name calls 2).trans (skipped_iff _ _ hc)
  have h₃ := (weight_le_iff name calls 3).trans (errorless_iff _ _ hc)
  constructor
  case unfinished => rw [Status.unfinished_iff, h₀]
  case pass =>
    rw [Status.eq_pass_iff, h₁, h₀]
    omega
  case skip =>
    rw [Status.eq_skip_iff, h₂, h₁]
    unfold SuiteTotals.completed
    omega
  case fail =>
    rw [Status.eq_fail_iff, h₃, h₂]
    constructor
    · rintro ⟨⟨herrors, hblacklisted, hkilled⟩, hfailing⟩
      exact ⟨by omega, hblacklisted, hkilled, herrors⟩
    · rintro ⟨hfailing, hblacklisted, hkilled, herrors⟩
      exact ⟨⟨herrors, hblacklisted, hkilled⟩, by omega⟩
  -- The three heaviest statuses weigh the same, so their counters are raised by the test that
  -- brought the status.
  case error =>
    intro hst
    rw [hc.failing]
    refine countP_pos_of_status name calls _ (by rw [hst]; decide) fun t ht => ?_
    exact Or.inr (ht.trans hst)
  case kill =>
    intro hst
    rw [hc.killed]
    exact countP_pos_of_status name calls _ (by rw [hst]; decide) fun t ht => ht.trans hst
  case blacklist =>
    intro hst
    rw [hc.blacklisted]
    exact countP_pos_of_status name calls _ (by rw [hst]; decide) fun t ht => ht.trans hst
  case failed =>
    rw [Status.failed_iff, h₂]
    omega

end SuiteSummary

end RunReport
