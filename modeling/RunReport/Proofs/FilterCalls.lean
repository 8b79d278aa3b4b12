import Mathlib.Data.List.Induction
import RunReport.Pattern.Standard
import RunReport.Proofs.Criteria

/-!
# Changing the Filter

Which filter is in force after any number of attempts to change it.

An attempt either puts the filter of its expression in force or is refused, and then it changes
nothing. What it answers is known from the expression alone, and what it leaves behind from the
expression and the criteria before it (`changeFilter_run`). So in a run the attempts that were
refused can be left out, and of the others the last one counts (`changeFilters_run`). The run is
taken apart at its end, where one more attempt either replaces the filter or leaves all as it is.

Where no attempt was accepted the filter is the one that the criteria of the report began with,
which is that of the expression in force there. Nothing else can refuse those criteria.

## Main definitions

* `Criteria.answer`: What an attempt answers.
* `Criteria.lastAccepted`: The filter of the last expression that is a pattern.

## Theorems

* `changeFilter_run`: What one attempt answers and leaves behind.
* `changeFilter_eq_setFilter`: It is the change of the criteria, or the refusal, and nothing else.
* `lastAccepted_concat`: One more expression.
* `changeFilters_concat`, `changeFilters_run`: What a run answers and leaves behind.
* `criteria_eq_error_iff`: When the criteria of a report are refused.
* `filter_in_force`: The filter of a report through any number of attempts to change it.
* `filter_in_force_table`: Three attempts on criteria with filters from three places.
-/

namespace RunReport

namespace Criteria

variable [PatternLibrary]

/-- What an attempt to change the filter answers. -/
def answer (expression : String) : Except RefusedValue Unit :=
  match NameFilter.read? expression with
  | some _ => .ok ()
  | none => .error (refused expression)

/-- The filter of the last expression that is a pattern. -/
def lastAccepted (expressions : List String) : Option NameFilter :=
  (expressions.filterMap NameFilter.read?).getLast?

/-! ### One attempt -/

/-- An attempt answers what its expression tells, and puts the filter in force if there is one. -/
theorem changeFilter_run (c : Criteria) (e : String) :
    (changeFilter e).run.run c =
      (answer e, { c with filter := (NameFilter.read? e).or c.filter }) := by
  unfold changeFilter answer
  cases NameFilter.read? e with
  | none => rfl
  | some f => rfl

/-- An attempt changes the criteria as far as they can be changed, and else leaves them. -/
theorem changeFilter_eq_setFilter (c : Criteria) (e : String) :
    (changeFilter e).run.run c =
      match c.setFilter e with
      | .ok c' => (.ok (), c')
      | .error r => (.error r, c) := by
  rw [changeFilter_run]
  unfold setFilter answer
  cases NameFilter.read? e with
  | none => rfl
  | some f => rfl

/-! ### Runs -/

/-- One more expression is the last one that is a pattern, unless it is none. -/
theorem lastAccepted_concat (es : List String) (e : String) :
    lastAccepted (es ++ [e]) = (NameFilter.read? e).or (lastAccepted es) := by
  unfold lastAccepted
  rw [List.filterMap_append]
  cases he : NameFilter.read? e with
  | none =>
      rw [List.filterMap_cons_none he, List.filterMap_nil, List.append_nil, Option.none_or]
  | some f =>
      rw [List.filterMap_cons_some he, List.filterMap_nil, List.getLast?_concat, Option.some_or]

/-- A run goes on with one more attempt on what it has left behind. -/
theorem changeFilters_concat (c : Criteria) (es : List String) (e : String) :
    (changeFilters (es ++ [e])).run c =
      (((changeFilters es).run c).1 ++ [((changeFilter e).run.run ((changeFilters es).run c).2).1],
        ((changeFilter e).run.run ((changeFilters es).run c).2).2) := by
  unfold changeFilters
  rw [List.mapM_append]
  rfl

/-- A run answers what each expression tells, and leaves the filter of the last one that is a
    pattern. -/
theorem changeFilters_run (c : Criteria) (es : List String) :
    (changeFilters es).run c
      = (es.map answer, { c with filter := (lastAccepted es).or c.filter }) := by
  induction es using List.reverseRecOn with
  | nil => rfl
  | append_singleton es e ih =>
      rw [changeFilters_concat, ih, changeFilter_run, lastAccepted_concat, List.map_append,
        Option.or_assoc]
      rfl

end Criteria

namespace Report

open Criteria (answer lastAccepted changeFilter changeFilters)

section Calls

variable [PatternLibrary]

/-- The criteria are refused exactly if the expression in force is no pattern. -/
theorem criteria_eq_error_iff (m : Manifest) (q : Query) (r : RefusedValue) :
    criteria m q = .error r ↔ ∃ e, filterInForce m q = some e ∧ NameFilter.read? e = none ∧
      r = Criteria.refused e := by
  rw [criteria_eq]
  cases filterInForce m q with
  | none => simp only [reduceCtorEq, false_and, exists_false]
  | some e =>
      simp only [Option.some.injEq, exists_eq_left', Criteria.setFilter]
      cases NameFilter.read? e with
      | none => simp only [Except.error.injEq, true_and, eq_comm]
      | some f => simp only [reduceCtorEq, false_and]

/-- The filter of a report through any number of attempts to change it. The criteria begin with the
    filter of the expression in force and are refused, with the name of the field, the expression
    and what the library says of its filter, exactly if this is no pattern. Of the attempts that
    follow the last one that is accepted counts. One that is refused says so and leaves all as it
    was, and one that is accepted leaves all but the filter. -/
theorem filter_in_force (m : Manifest) (q : Query) :
    (∀ r, criteria m q = .error r ↔ ∃ e, filterInForce m q = some e ∧
      NameFilter.read? e = none ∧
      r = ⟨"filter", e, PatternLibrary.complaint (NameFilter.wholeName e)⟩) ∧
    ∀ c, criteria m q = .ok c →
      c.filter = (filterInForce m q).bind NameFilter.read? ∧
      (c.filter.isSome ↔ (filterInForce m q).isSome) ∧
      ∀ es : List String, ∃ answers c', (changeFilters es).run c = (answers, c') ∧
        answers = es.map answer ∧
        c' = { c with filter := (lastAccepted es).or c.filter } ∧
        ∀ e,
          (NameFilter.read? e = none → (changeFilters (es ++ [e])).run c
            = (answers ++ [.error ⟨"filter", e,
              PatternLibrary.complaint (NameFilter.wholeName e)⟩], c')) ∧
          ∀ f, NameFilter.read? e = some f → (changeFilters (es ++ [e])).run c
            = (answers ++ [.ok ()], { c' with filter := some f }) := by
  refine ⟨criteria_eq_error_iff m q, fun c hc => ?_⟩
  rcases (criteria_eq_ok_iff m q c).mp hc with ⟨hpattern, rfl⟩
  refine ⟨rfl, ?_, fun es => ?_⟩
  · -- A filter that is in force was read when the criteria were made, so it is there.
    cases hforce : filterInForce m q with
    | none => exact Iff.rfl
    | some e =>
        have hsome := hpattern e hforce
        simp only [Option.bind_some, hsome, Option.isSome_some]
  · refine ⟨_, _, Criteria.changeFilters_run _ es, rfl, rfl,
      fun e => ⟨fun he => ?_, fun f he => ?_⟩⟩
    · rw [Criteria.changeFilters_concat, Criteria.changeFilters_run,
        Criteria.changeFilter_eq_setFilter, Criteria.setFilter, he]
      rfl
    · rw [Criteria.changeFilters_concat, Criteria.changeFilters_run,
        Criteria.changeFilter_eq_setFilter, Criteria.setFilter, he]

end Calls

/-- Criteria that begin with the attribute's filter, through an expression that is a pattern and
    two that are none. -/
theorem filter_in_force_table :
    let m : Manifest :=
      { name := "nightly", report := .list, formUrl := { scheme := "http", path := "/tests" }
        longRunning := Span.zero, filter := some "smoke" }
    let q := (Query.read "?Filter=x&sort=priority").withAttributes
      [("filter", "login"), ("FILTER", "log(in|out)")]
    ∃ c c', criteria m q = .ok c ∧
      c.filter = NameFilter.read? "log(in|out)" ∧ c.filter.isSome ∧
      (changeFilters ["(", "log.*", "*"]).run c =
        ([.error ⟨"filter", "(", "regex parse error:\n    ^(?:()$"⟩, .ok (),
          .error ⟨"filter", "*", "regex parse error:\n    ^(?:*)$"⟩], c') ∧
      c'.filter = NameFilter.read? "log.*" ∧ c'.sort = some .priority := by
  intro m q
  have hforce : filterInForce m q = some "log(in|out)" := by decide +kernel
  have hreads : (NameFilter.read? "log(in|out)").isSome := by decide +kernel
  have hlast : NameFilter.read? "*" = none := by decide +kernel
  have hc : criteria m q = .ok
      { Criteria.unfiltered q with filter := (filterInForce m q).bind NameFilter.read? } := by
    refine (criteria_eq_ok_iff m q _).mpr ⟨fun e he => ?_, rfl⟩
    rw [hforce] at he
    cases he
    exact hreads
  rcases (filter_in_force m q).2 _ hc with ⟨hfilter, hsome, hruns⟩
  rcases hruns ["(", "log.*"] with ⟨answers, c', -, hanswers, hc', hnext⟩
  refine ⟨_, c', hc, ?_, ?_, ?_, ?_, ?_⟩
  · rw [hfilter, hforce, Option.bind_some]
  · rw [hsome, hforce]
    rfl
  · have hrun := (hnext "*").1 hlast
    rw [hanswers] at hrun
    exact hrun
  · rw [hc']
    rfl
  · rw [hc']
    decide +kernel

end Report

end RunReport
