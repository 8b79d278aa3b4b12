import RunReport.Proofs.SuiteStatus

/-!
# A Run of Reports on One Test

What a status has become after any number of reports.

`Status.update` is a table of pairs, and the pairs do not show what a run of them comes to. They
hide two rules. Among `unknown`, `pending`, `running`, `pass`, `skip` and `fail`, which are listed
in `Status.chain`, a report counts if it stands later in the chain than what was known. The other
three are final: they always count, and after one of them nothing else does. `update_of_isFinal`
and `update_of_open` are these rules, and they are the only facts here that look at the table.

Together they say what a run settles on, `Settles`. If a final status was reported it is the last of
those, and otherwise the greatest of all. A run grows at its end, so the induction adds a report
there, and the last final status is then the new one or the one there was. What a run settles on is
determined by the reports alone (`settles_unique`), and their order matters only where two different
final statuses are among them (`settles_perm`).

## Main definitions

* `Status.isFinal`: The three statuses that only their own kind replaces.
* `Status.chain`, `Status.rank`: The other six in their order, and the place of a status there.
* `Status.severe`: A failure or worse.
* `Status.after`: A status after a run of reports.
* `Status.Settles`: What some reported statuses settle on.
* `Status.OneFinal`: No two different final statuses were reported.

## Theorems

* `update_of_isFinal`, `update_of_open`: The two rules in the table.
* `rank_lt_of_open`, `rank_of_isFinal`: A status stands in the chain unless it is final.
* `rank_inj`: Statuses in the chain are told apart by their places.
* `mem_severe_iff`: A failure or worse stands last in the chain or behind its end.
* `after_append`: A run in two parts.
* `last_or_open`: A final status was reported, or none was.
* `isFinal_of_settles_iff`: What was settled on is final exactly if a final status was reported.
* `settles_of_forall_eq`: Reports that all say the same settle on it.
* `settles_concat`, `after_settles`: A run settles on what was reported.
* `settles_unique`: There is one status to settle on.
* `settles_perm`: The order matters only between different final statuses.
* `status_addAll`, `status_addAll_settles`: The status of a line of suites is that of such a run.
* `rank_le_after`: No report takes a status back in the chain.
* `after_resolves`: What a run of reports comes to.
-/

namespace RunReport

namespace Status

/-- The three statuses that only their own kind replaces. -/
def isFinal : Status → Bool
  | error | kill | blacklist => true
  | _ => false

/-- The statuses that give way to any later one of the list. -/
def chain : List Status :=
  [unknown, pending, running, pass, skip, fail]

/-- The place of a status in the chain; the final ones are behind its end. -/
def rank (s : Status) : Nat :=
  chain.idxOf s

/-- The statuses that say that a test failed, or worse. -/
def severe : List Status :=
  [fail, error, kill, blacklist]

/-- A status after a run of reports. -/
def after (start : Status) (reports : List Status) : Status :=
  reports.foldl update start

/-! ### The rules in the table -/

/-- A final report always counts. -/
theorem update_of_isFinal (current reported : Status) (h : reported.isFinal) :
    current.update reported = reported := by
  cases reported
  case error | kill | blacklist => rfl
  all_goals exact absurd h (by decide)

/-- Any other report counts if it stands later in the chain, which nothing does behind a final
    status. -/
theorem update_of_open (current reported : Status) (h : reported.isFinal = false) :
    current.update reported = if current.rank < reported.rank then reported else current := by
  cases reported
  case error | kill | blacklist => exact absurd h (by decide)
  all_goals cases current <;> rfl

/-- A status in the chain stands before its end. -/
theorem rank_lt_of_open (s : Status) (h : s.isFinal = false) : s.rank < chain.length := by
  cases s
  case error | kill | blacklist => exact absurd h (by decide)
  all_goals decide

theorem rank_of_isFinal (s : Status) (h : s.isFinal) : s.rank = chain.length := by
  cases s
  case error | kill | blacklist => rfl
  all_goals exact absurd h (by decide)

/-- Statuses in the chain are told apart by their places. -/
theorem rank_inj (a b : Status) (ha : a.isFinal = false) (h : a.rank = b.rank) : a = b := by
  have hmem : a ∈ chain := List.idxOf_lt_length_iff.mp (rank_lt_of_open a ha)
  exact (List.idxOf_inj hmem).mp h

/-- A failure or worse stands last in the chain or behind its end. -/
theorem mem_severe_iff (s : Status) : s ∈ severe ↔ fail.rank ≤ s.rank := by
  cases s <;> decide

/-! ### What a run settles on -/

/-- What some reported statuses settle on: the last final one, or the greatest if none is final. -/
structure Settles (reported : List Status) (s : Status) : Prop where
  last : ∀ f, (reported.filter isFinal).getLast? = some f → s = f
  greatest : (∀ a ∈ reported, a.isFinal = false) → s ∈ reported ∧ ∀ a ∈ reported, a.rank ≤ s.rank

/-- No two different final statuses were reported. -/
def OneFinal (reported : List Status) : Prop :=
  ∀ a ∈ reported, ∀ b ∈ reported, a.isFinal → b.isFinal → a = b

theorem after_append (start : Status) (reports later : List Status) :
    start.after (reports ++ later) = (start.after reports).after later := by
  rw [after, after, after, List.foldl_append]

/-- A final status was reported, or none was. -/
theorem last_or_open (reported : List Status) :
    (∃ f ∈ reported, f.isFinal ∧ (reported.filter isFinal).getLast? = some f) ∨
      ∀ a ∈ reported, a.isFinal = false := by
  cases hlast : (reported.filter isFinal).getLast? with
  | none =>
      rw [List.getLast?_eq_none_iff, List.filter_eq_nil_iff] at hlast
      exact Or.inr fun a ha => Bool.eq_false_iff.mpr (hlast a ha)
  | some f =>
      have hf := List.mem_filter.mp (List.mem_of_getLast? hlast)
      exact Or.inl ⟨f, hf.1, hf.2, rfl⟩

/-- What was settled on is final exactly if a final status was reported. -/
theorem isFinal_of_settles_iff (reported : List Status) (s : Status) (h : Settles reported s) :
    s.isFinal ↔ ∃ f ∈ reported, f.isFinal := by
  rcases last_or_open reported with ⟨f, hmem, hf, hlast⟩ | hopen
  · rw [h.last f hlast]
    exact ⟨fun _ => ⟨f, hmem, hf⟩, fun _ => hf⟩
  · have hs := hopen s (h.greatest hopen).1
    constructor
    · intro hfinal
      exact absurd hfinal (by rw [hs]; decide)
    · rintro ⟨f, hmem, hf⟩
      exact absurd hf (by rw [hopen f hmem]; decide)

/-- Reports that all say the same settle on it. -/
theorem settles_of_forall_eq (reported : List Status) (s : Status) (hmem : s ∈ reported)
    (hall : ∀ a ∈ reported, a = s) : Settles reported s := by
  constructor
  case last =>
    intro f hlast
    have hf := List.mem_filter.mp (List.mem_of_getLast? hlast)
    exact (hall f hf.1).symm
  case greatest =>
    intro _
    exact ⟨hmem, fun a ha => Nat.le_of_eq (congrArg rank (hall a ha))⟩

/-- One more report: the run settles on what the update gives. -/
theorem settles_concat (reported : List Status) (s r : Status) (h : Settles reported s) :
    Settles (reported ++ [r]) (s.update r) := by
  by_cases hr : r.isFinal
  · -- The new report is the last final one, and some status is final.
    rw [update_of_isFinal s r hr]
    constructor
    case last =>
      intro f hlast
      rw [List.filter_append, List.filter_cons_of_pos hr, List.filter_nil, List.getLast?_concat,
        Option.some.injEq] at hlast
      exact hlast
    case greatest =>
      intro hopen
      have hnot := hopen r (List.mem_append_right _ (List.mem_singleton_self r))
      exact absurd hr (by rw [hnot]; decide)
  · have hopen := Bool.eq_false_iff.mpr hr
    rw [update_of_open s r hopen]
    constructor
    case last =>
      intro f hlast
      rw [List.filter_append, List.filter_cons_of_neg hr, List.filter_nil, List.append_nil] at hlast
      -- The status is final already, so the report does not stand later than it.
      have hs : s = f := h.last f hlast
      have hf : f.isFinal := (List.mem_filter.mp (List.mem_of_getLast? hlast)).2
      have hlt := rank_lt_of_open r hopen
      rw [if_neg (by rw [hs, rank_of_isFinal f hf]; omega), hs]
    case greatest =>
      intro hall
      rw [List.forall_mem_append] at hall
      rcases h.greatest hall.1 with ⟨hmem, hle⟩
      by_cases hlt : s.rank < r.rank
      · rw [if_pos hlt, List.forall_mem_append, List.forall_mem_singleton]
        refine ⟨List.mem_append_right _ (List.mem_singleton_self r), fun a ha => ?_, Nat.le_refl _⟩
        have ha := hle a ha
        omega
      · rw [if_neg hlt, List.forall_mem_append, List.forall_mem_singleton]
        exact ⟨List.mem_append_left _ hmem, hle, by omega⟩

/-- A run settles on what was reported, its start among it. -/
theorem after_settles (start : Status) (reports : List Status) :
    Settles (start :: reports) (start.after reports) := by
  induction reports using List.reverseRecOn with
  | nil =>
      exact settles_of_forall_eq [start] start List.mem_cons_self fun a => List.mem_singleton.mp
  | append_singleton reports r ih =>
      rw [after_append, ← List.cons_append]
      exact settles_concat (start :: reports) (start.after reports) r ih

/-- There is one status to settle on. -/
theorem settles_unique (reported : List Status) (s s' : Status) (h : Settles reported s)
    (h' : Settles reported s') : s = s' := by
  rcases last_or_open reported with ⟨f, -, -, hlast⟩ | hopen
  · rw [h.last f hlast, h'.last f hlast]
  · -- Each of the two is a reported status that the other one is not below.
    rcases h.greatest hopen with ⟨hmem, hle⟩
    rcases h'.greatest hopen with ⟨hmem', hle'⟩
    have hsame := Nat.le_antisymm (hle' s hmem) (hle s' hmem')
    exact rank_inj s s' (hopen s hmem) hsame

/-- Rearranged reports settle on the same status if no two of them are final and different. -/
theorem settles_perm (reported reported' : List Status) (s : Status)
    (hperm : reported.Perm reported') (hone : OneFinal reported) (h : Settles reported s) :
    Settles reported' s := by
  constructor
  case last =>
    intro f hlast
    have hf := List.mem_filter.mp (List.mem_of_getLast? hlast)
    have hmem : f ∈ reported := hperm.mem_iff.mpr hf.1
    -- The last one in the first order is final too, and so it is the same.
    rcases last_or_open reported with ⟨g, hg, hgfinal, hglast⟩ | hopen
    · rw [h.last g hglast]
      exact hone g hg f hmem hgfinal hf.2
    · exact absurd hf.2 (by rw [hopen f hmem]; decide)
  case greatest =>
    intro hopen
    rcases h.greatest fun a ha => hopen a (hperm.mem_iff.mp ha) with ⟨hmem, hle⟩
    exact ⟨hperm.mem_iff.mp hmem, fun a ha => hle a (hperm.mem_iff.mpr ha)⟩

end Status

namespace SuiteSummary

/-! ### The status of a line of suites -/

/-- The status of a line is that of a run of reports that starts without one. -/
theorem status_addAll (name : String) (calls : List (Highlighter × TestRecord)) :
    (addAll name calls).status = Status.unknown.after (calls.map (·.2.status)) := by
  induction calls using List.reverseRecOn with
  | nil => rfl
  | append_singleton calls c ih =>
      rw [addAll_concat, add, ih, List.map_append, Status.after_append]
      rfl

/-- The status of a line is what the statuses of its tests settle on. -/
theorem status_addAll_settles (name : String) (calls : List (Highlighter × TestRecord)) :
    Status.Settles (.unknown :: calls.map (·.2.status)) (addAll name calls).status := by
  rw [status_addAll]
  exact Status.after_settles .unknown (calls.map (·.2.status))

end SuiteSummary

namespace Status

/-! ### The law of a run -/

/-- No report takes a status back in the chain. -/
theorem rank_le_after (start : Status) (reports : List Status) :
    start.rank ≤ (start.after reports).rank := by
  have hsettles := after_settles start reports
  rcases last_or_open (start :: reports) with ⟨f, -, hf, hlast⟩ | hopen
  · rw [hsettles.last f hlast, rank_of_isFinal f hf]
    exact List.idxOf_le_length
  · exact (hsettles.greatest hopen).2 start List.mem_cons_self

/-- What a run of reports comes to. It settles on the last of the final statuses, or on the greatest
    status if none was final. A failure or worse is never replaced by anything better, a final
    status only by a final one, and a status that is reported again not at all. The order of the
    reports matters only where two different final statuses are among them. The line of a suite
    settles on the statuses of its tests in this way. -/
theorem after_resolves (start : Status) (reports later : List Status) :
    let s := start.after reports
    Settles (start :: reports) s ∧
    (s ∈ severe → start.after (reports ++ later) ∈ severe) ∧
    (s.isFinal → (start.after (reports ++ later)).isFinal ∧
      ((∀ r ∈ later, r.isFinal = false) → start.after (reports ++ later) = s)) ∧
    (∀ n, start.after (reports ++ List.replicate n s) = s) ∧
    (OneFinal (start :: reports) → ∀ reports', reports.Perm reports' →
      start.after reports' = s) ∧
    ∀ name (calls : List (Highlighter × TestRecord)),
      Settles (unknown :: calls.map (·.2.status)) (SuiteSummary.addAll name calls).status := by
  intro s
  have hlater : Settles (s :: later) (s.after later) := after_settles s later
  refine ⟨after_settles start reports, ?_, ?_, fun n => ?_, ?_, SuiteSummary.status_addAll_settles⟩
  · rw [after_append, mem_severe_iff, mem_severe_iff]
    intro hs
    exact Nat.le_trans hs (rank_le_after s later)
  · intro hs
    rw [after_append]
    refine ⟨(isFinal_of_settles_iff _ _ hlater).mpr ⟨s, List.mem_cons_self, hs⟩, fun hopen => ?_⟩
    -- Nothing later is final, so the last final status is the one there was.
    have hnone : later.filter isFinal = [] :=
      List.filter_eq_nil_iff.mpr fun r hr => by rw [hopen r hr]; decide
    refine hlater.last s ?_
    rw [List.filter_cons_of_pos hs, hnone]
    rfl
  · rw [after_append]
    refine settles_unique (s :: List.replicate n s) _ s (after_settles s _) ?_
    refine settles_of_forall_eq _ s List.mem_cons_self fun a ha => ?_
    rw [← List.replicate_succ] at ha
    exact List.eq_of_mem_replicate ha
  · intro hone reports' hperm
    have hsettles := settles_perm (start :: reports) (start :: reports') s (hperm.cons start) hone
      (after_settles start reports)
    exact settles_unique (start :: reports') _ s (after_settles start reports') hsettles

/-- A failed test that was stopped and then reported on again, first as it went on and then once
    more as stopped. -/
theorem after_resolves_stopped :
    let s := skip.after [fail, kill, pass, kill]
    let later := [error, running]
    s = kill ∧ Settles [skip, fail, kill, pass, kill] s ∧
    (s ∈ severe ∧ skip.after ([fail, kill, pass, kill] ++ later) ∈ severe) ∧
    (s.isFinal ∧ (skip.after ([fail, kill, pass, kill] ++ later)).isFinal) ∧
    ((∀ r ∈ [running, fail], r.isFinal = false) ∧
      skip.after ([fail, kill, pass, kill] ++ [running, fail]) = s) ∧
    skip.after ([fail, kill, pass, kill] ++ List.replicate 3 s) = s ∧
    OneFinal [skip, fail, kill, pass, kill] ∧
    [fail, kill, pass, kill].Perm [kill, kill, fail, pass] ∧
    skip.after [kill, kill, fail, pass] = s := by
  intro s later
  have hsevere : s ∈ severe := by decide
  have hfinal : s.isFinal := by decide
  have hopen : ∀ r ∈ [running, fail], r.isFinal = false := by decide
  have hone : OneFinal [skip, fail, kill, pass, kill] := by
    unfold OneFinal
    decide
  have hperm : [fail, kill, pass, kill].Perm [kill, kill, fail, pass] := by decide
  rcases after_resolves skip [fail, kill, pass, kill] later with
    ⟨hsettles, hworse, hkept, hagain, horder, -⟩
  have hstays := (after_resolves skip [fail, kill, pass, kill] [running, fail]).2.2.1 hfinal
  exact ⟨rfl, hsettles, ⟨hsevere, hworse hsevere⟩, ⟨hfinal, (hkept hfinal).1⟩,
    ⟨hopen, hstays.2 hopen⟩, hagain 3, hone, hperm, horder hone _ hperm⟩

end Status

end RunReport
