import RunReport.Pattern.Standard
import RunReport.Proofs.Criteria
import RunReport.Proofs.GroupTail
import RunReport.Proofs.WellFormedGroups

/-!
# Filters for Whole Names

What the filter of an expression accepts, and when an expression makes a filter.

The filter is read from a text: the expression is put into a group, with a caret before the group
and a dollar behind it. The text is then read from its beginning, so the closing parenthesis that
was put there need not be the one that closes the group. `reading_wholeName` undoes this from the
front, where nothing can go wrong: what is read is the expression with the closing behind it, and
then what follows the parenthesis it stopped at. `reading_agrees` takes off the closing.

If the expression is a pattern by itself, then its reading ends with its text, and the reading with
the closing behind it stops before the closing or, if a comment took it in, nowhere. In the first
case the filter is the pattern held to both ends, as long as the parts that were put around it are
not nested too deep and the library takes the program of the whole. In the other direction, a filter
without a pattern needs a parenthesis in the expression that closes the group too early. Such
expressions make filters that accept more than whole names, and `read?_spliced` has one.

## Main definitions

* `Pattern.reading`: An expression read as a group, as far as it goes.
* `Pattern.StopsEarly`: An expression stops at a parenthesis that nothing in it opens.
* `Pattern.TakesInClosing`: A comment at the end of an expression takes in what stands behind it.
* `Pattern.HasRoom`: The parts that are put around an expression are not nested too deep.

## Theorems

* `Pattern.readGroup_eq_reading`: A bound does not matter as long as it is large enough.
* `Pattern.reading_wholeName`: The text of a filter is read like the expression with its closing.
* `Pattern.reading_closing`: What is left has the closing at its end, or there is nothing left.
* `Pattern.wellFormed_of_written?`: A pattern that an expression writes is well formed.
* `Pattern.written?_wholeName_of_written?`: The filter of an expression that is a pattern.
* `Pattern.stopsEarly_of_written?_wholeName`: Only a parenthesis that nothing opens lets something
  pass that is no pattern by itself.
* `NameFilter.read?_spec`: The filter of an expression, in a query and in a manifest.
* `NameFilter.read?_alternatives`, `NameFilter.read?_spliced`: A filter for two names, and one that
  accepts more than its names.
-/

namespace RunReport

namespace Pattern

/-- What stands behind an expression that is held to both ends of a name. -/
def closing : String := ")$"

section Written

variable [UnicodeNames]

/-- An expression read as a group, as far as it goes. -/
def reading (e : String) : Read (Term × List String) :=
  readGroup (2 * e.length + 2) {} e.toList

/-- The pattern of a group that is not nested too deep. -/
def admitted? (t : Term) : Option Pattern :=
  if t.depth ≤ depthLimit then some t.pattern else none

theorem written?_eq (e : String) :
    written? e = (reading e).bind fun m => if m.2 = [] then admitted? m.1.1 else none := by
  unfold written? reading readGroup
  cases group (2 * e.length + 2) {} e.toList with
  | none => rfl
  | some g =>
      rcases g with ⟨t, names, _ | ⟨c, rest⟩⟩
      · rfl
      · rfl

omit [UnicodeNames] in
theorem Agrees.eq {α : Type} {a b : Read α} (h : Agrees [] a b) : a = b := by
  cases b with
  | none =>
      cases a with
      | none => rfl
      | some m =>
          rcases h.grown m.1 m.2 rfl with ⟨r, hr, -⟩
          exact absurd hr (by simp)
  | some m =>
      rcases h.kept m.1 m.2 (by rw [List.append_nil]) with ha | ha
      · exact ha
      · exact ha.elim

/-- How far a reader may go does not matter as long as it is far enough. -/
theorem readGroup_eq_reading (n : Nat) (e : String) (hn : e.length < n) :
    readGroup n {} e.toList = reading e := by
  -- Nothing is put behind the text here: the two readings differ in their bounds alone.
  have hread := readGroup_agrees (.inl rfl) n (2 * e.length + 2) {} e.toList
    (by rw [String.length_toList]; exact hn)
    (by rw [List.append_nil, String.length_toList]; omega)
  rw [List.append_nil] at hread
  exact hread.eq

theorem reading_agrees (e : String) :
    Agrees closing.toList (reading e) (reading (e ++ closing)) := by
  have hread := readGroup_agrees (w := closing.toList) (.inr rfl) (2 * e.length + 2)
    (2 * (e ++ closing).length + 2) {} e.toList (by rw [String.length_toList]; omega)
    (by rw [← String.toList_append, String.length_toList]; omega)
  rw [← String.toList_append] at hread
  exact hread

/-- What is read before the expression. -/
def opened : State :=
  { items := [.term ⟨.look .textStart, 0⟩] }

theorem readGroup_opening (n : Nat) (cs : List Char) :
    readGroup (n + 2) {} ('^' :: '(' :: '?' :: ':' :: cs)
      = (readGroup n {} cs).bind fun inner => afterGroup (readGroup n) opened inner.1 inner.2 := by
  -- One step takes the caret, the next one enters the group, and neither depends on the rest.
  have hstart : move {} ('^' :: '(' :: '?' :: ':' :: cs)
      = some (.go opened, '(' :: '?' :: ':' :: cs) := rfl
  have hgroup : move opened ('(' :: '?' :: ':' :: cs) = some (.enter {} none, cs) := rfl
  rw [readGroup_succ]
  have hskip : ∀ ds, skip {} ds = ds := fun _ => rfl
  rw [hskip, hstart, Option.bind_some, proceed, readGroup_succ]
  have hskip' : ∀ ds, skip opened.flags ds = ds := fun _ => rfl
  rw [hskip', hgroup, Option.bind_some, proceed]
  rfl

theorem afterGroup_closing (n : Nat) (inner : Term × List String) :
    afterGroup (readGroup (n + 2)) opened inner closing.toList
      = some ((⟨inner.1.pattern.wholly, inner.1.depth + 2⟩, inner.2), []) := by
  rfl

theorem reading_wholeName (e : String) :
    reading (NameFilter.wholeName e) = (reading (e ++ closing)).bind fun inner =>
      afterGroup (readGroup (2 * e.length + 12)) opened inner.1 inner.2 := by
  have htext : (NameFilter.wholeName e).toList
      = '^' :: '(' :: '?' :: ':' :: (e ++ closing).toList := by
    rw [NameFilter.wholeName, String.toList_append, String.toList_append, String.toList_append]
    rfl
  have hlength : 2 * (NameFilter.wholeName e).length + 2 = 2 * e.length + 12 + 2 := by
    rw [← String.length_toList, htext]
    simp only [List.length_cons, String.length_toList, String.length_append]
    have hclosing : closing.length = 2 := rfl
    omega
  rw [reading, hlength, htext, readGroup_opening, readGroup_eq_reading]
  rw [String.length_append]
  have hclosing : closing.length = 2 := rfl
  omega

/-- What is left of an expression and the closing behind it has the whole closing at its end, or
    there is nothing left. -/
theorem reading_closing (e : String) (x : Term × List String) (r : List Char)
    (h : reading (e ++ closing) = some (x, r)) : r = [] ∨ ∃ r', r = r' ++ closing.toList := by
  rcases readGroup_suffix _ _ _ r x h with ⟨⟨t, ht⟩, hclose⟩
  rw [String.toList_append] at ht
  -- The cut lies in the expression, or it lies in the closing and leaves one of its three ends.
  rcases List.append_eq_append_iff.mp ht with ⟨a, -, hr⟩ | ⟨a, -, ha⟩
  · exact .inr ⟨a, hr⟩
  · have hparts : ([')', '$'] : List Char) = a ++ r := ha
    rcases a with _ | ⟨c, _ | ⟨d, a⟩⟩
    · exact .inr ⟨[], ha.symm⟩
    · rw [List.cons_append, List.nil_append, List.cons.injEq] at hparts
      rcases hclose with hr | ⟨rest, hr⟩
      · exact .inl hr
      · rw [hr, List.cons.injEq] at hparts
        exact absurd hparts.2.1 (by decide)
    · simp only [List.cons_append, List.cons.injEq, List.nil_eq_append_iff] at hparts
      exact .inl hparts.2.2.2

/-- An expression stops at a parenthesis that nothing in it opens. -/
def StopsEarly (e : String) : Prop :=
  ∃ x rest, reading e = some (x, ')' :: rest)

/-- A comment at the end of an expression takes in what stands behind it. -/
def TakesInClosing (e : String) : Prop :=
  ∃ x, reading (e ++ closing) = some (x, [])

/-- An expression leaves room for the parts around it, which nest it two deeper. -/
def HasRoom (e : String) : Prop :=
  ∀ x, reading e = some (x, []) → x.1.depth + 2 ≤ depthLimit

omit [UnicodeNames] in
theorem pattern_of_admitted? (t : Term) (p : Pattern) (h : admitted? t = some p) :
    t.pattern = p := by
  unfold admitted? at h
  split at h
  · exact Option.some.inj h
  · exact absurd h (by simp)

theorem written?_wholeName (e : String) (x : Term × List String)
    (h : reading (e ++ closing) = some (x, closing.toList)) :
    written? (NameFilter.wholeName e) = admitted? ⟨x.1.pattern.wholly, x.1.depth + 2⟩ := by
  rw [written?_eq, reading_wholeName, h, Option.bind_some, afterGroup_closing]
  rfl

theorem written?_wholeName_of_takesInClosing (e : String) (h : TakesInClosing e) :
    written? (NameFilter.wholeName e) = none := by
  rcases h with ⟨x, hx⟩
  rw [written?_eq, reading_wholeName, hx]
  rfl

theorem written?_eq_some_iff (e : String) (p : Pattern) :
    written? e = some p ↔ ∃ x, reading e = some (x, []) ∧ admitted? x.1 = some p := by
  rw [written?_eq]
  constructor
  · intro h
    rcases Option.bind_eq_some_iff.mp h with ⟨⟨x, r⟩, hread, h⟩
    split at h
    · next hr => exact ⟨x, by rw [hread]; exact congrArg (fun r => some (x, r)) hr, h⟩
    · exact absurd h (by simp)
  · rintro ⟨x, hread, h⟩
    rw [hread]
    exact h

/-- A pattern that an expression writes is well formed. -/
theorem wellFormed_of_written? (e : String) (p : Pattern) (h : written? e = some p) :
    p.WellFormed := by
  rcases (written?_eq_some_iff e p).mp h with ⟨x, hread, hp⟩
  rw [← pattern_of_admitted? x.1 p hp]
  exact readGroup_wellFormed _ {}
    ⟨fun i hi => absurd hi List.not_mem_nil, fun t ht => absurd ht List.not_mem_nil⟩ _ [] x hread

/-- A pattern with the parts around it, if these are not taken in and there is room for them. -/
theorem written?_wholeName_of_written? (e : String) (p : Pattern) (h : written? e = some p) :
    (TakesInClosing e ∧ written? (NameFilter.wholeName e) = none) ∨
    (¬ TakesInClosing e ∧ (HasRoom e → written? (NameFilter.wholeName e) = some p.wholly) ∧
      (¬ HasRoom e → written? (NameFilter.wholeName e) = none)) := by
  rcases (written?_eq_some_iff e p).mp h with ⟨x, hread, hp⟩
  have hpattern := pattern_of_admitted? x.1 p hp
  -- The wrapper is two levels deep, and those are what the expression must leave free.
  have hroom : HasRoom e ↔ x.1.depth + 2 ≤ depthLimit := by
    constructor
    · exact fun hroom => hroom x hread
    · intro hx y hy
      rw [hread, Option.some.injEq, Prod.mk.injEq] at hy
      exact hy.1 ▸ hx
  rcases (reading_agrees e).grown x [] hread with ⟨r, hclosed, rfl | ⟨-, rfl⟩⟩
  · right
    rw [List.nil_append] at hclosed
    rw [written?_wholeName e x hclosed, hpattern, hroom, admitted?]
    refine ⟨?_, fun hx => if_pos hx, fun hx => if_neg hx⟩
    rintro ⟨y, hy⟩
    rw [hclosed, Option.some.injEq, Prod.mk.injEq] at hy
    exact absurd hy.2 (by decide)
  · left
    exact ⟨⟨x, hclosed⟩, written?_wholeName_of_takesInClosing e ⟨x, hclosed⟩⟩

/-- Only a parenthesis that nothing opens lets something pass that is no pattern by itself. -/
theorem stopsEarly_of_written?_wholeName (e : String) (h : written? e = none)
    (hwhole : (written? (NameFilter.wholeName e)).isSome) : StopsEarly e := by
  rcases Option.isSome_iff_exists.mp hwhole with ⟨q, hq⟩
  rcases (written?_eq_some_iff _ q).mp hq with ⟨y, hread, hy⟩
  rw [reading_wholeName] at hread
  rcases Option.bind_eq_some_iff.mp hread with ⟨⟨x, r⟩, hinner, hafter⟩
  rcases reading_closing e x r hinner with rfl | ⟨r, rfl⟩
  · exact absurd hafter (by simp [afterGroup])
  rcases (reading_agrees e).kept x r hinner with hshort | hshort
  · rcases (readGroup_suffix _ _ _ r x hshort).2 with rfl | ⟨rest, rfl⟩
    · -- Then the expression is a group, and there is room for it since there is for more.
      rw [List.nil_append, afterGroup_closing, Option.some.injEq, Prod.mk.injEq] at hafter
      rw [← hafter.1, admitted?] at hy
      split at hy
      · next hroom =>
          have hadmitted : admitted? x.1 = some x.1.pattern :=
            if_pos (Nat.le_of_add_right_le hroom)
          have hwritten := (written?_eq_some_iff e _).mpr ⟨x, hshort, hadmitted⟩
          exact absurd (h.symm.trans hwritten) (by simp)
      · exact absurd hy (by simp)
    · exact ⟨x, rest, hshort⟩
  · exact hshort.elim

end Written

end Pattern

namespace NameFilter

open Pattern

/-- The filter of an expression, whatever the library knows by name and takes. An expression that is
    a pattern by itself makes a filter unless a comment at its end takes in the closing behind it,
    the parts around it are nested too deep, or the library does not take the program of the whole;
    and the filter then accepts the names that the pattern matches as a whole. One that is no
    pattern by itself makes a filter only if it stops at a parenthesis that nothing in it opens. A
    query and a manifest are refused if their expression makes no filter. -/
theorem read?_spec [PatternLibrary] (e : String) :
    (∀ p, written? e = some p →
      ((read? e).isSome ↔
        ¬ TakesInClosing e ∧ HasRoom e ∧ PatternLibrary.fits (wholeName e) = true) ∧
      ∀ f, read? e = some f → ∀ name,
        f.accepts name = true ↔
          p.Matches name.toList.toArray 0 name.toList.toArray.size) ∧
    (written? e = none → (read? e).isSome → StopsEarly e) ∧
    (∀ c c' : Criteria, c.setFilter e = .ok c' ↔
      (read? e).isSome ∧ c' = { c with filter := read? e }) ∧
    ∀ m q, Report.filterInForce m q = some e → ∀ c, Report.criteria m q = .ok c ↔
      (read? e).isSome ∧ c = { Criteria.unfiltered q with filter := read? e } := by
  refine ⟨fun p hp => ?_, fun hnone hread => ?_, fun c c' => ?_, fun m q hforce c => ?_⟩
  · have hmatch : ∀ name, (NameFilter.mk p.wholly).accepts name = true ↔
        p.Matches name.toList.toArray 0 name.toList.toArray.size :=
      isMatch_wholly p (wellFormed_of_written? e p hp)
    rw [read?, parse?]
    rcases written?_wholeName_of_written? e p hp with ⟨htaken, hnone⟩ | ⟨htaken, hsome, hnone⟩
    · rw [hnone]
      exact ⟨⟨fun h => absurd h (by simp), fun h => absurd htaken h.1⟩,
        fun f hf => absurd hf (by simp)⟩
    · -- Nothing is taken in, so the room and the library decide.
      by_cases hroom : HasRoom e
      · rw [hsome hroom]
        cases hfits : PatternLibrary.fits (wholeName e) with
        | false =>
            rw [Option.filter_some, if_neg Bool.false_ne_true]
            exact ⟨⟨fun h => absurd h (by simp), fun h => absurd h.2.2 (by simp)⟩,
              fun f hf => absurd hf (by simp)⟩
        | true =>
            rw [Option.filter_some, if_pos rfl]
            exact ⟨⟨fun _ => ⟨htaken, hroom, rfl⟩, fun _ => rfl⟩,
              fun f hf => Option.some.inj hf ▸ hmatch⟩
      · rw [hnone hroom]
        exact ⟨⟨fun h => absurd h (by simp), fun h => absurd h.2.1 hroom⟩,
          fun f hf => absurd hf (by simp)⟩
  · rw [read?, Option.isSome_map, parse?] at hread
    rcases Option.isSome_iff_exists.mp hread with ⟨q, hq⟩
    have hwhole := (Option.filter_eq_some_iff.mp hq).1
    exact stopsEarly_of_written?_wholeName e hnone (hwhole ▸ rfl)
  · unfold Criteria.setFilter
    cases read? e with
    | none => simp
    | some f =>
        simp only [Except.ok.injEq, Option.isSome_some, true_and]
        exact eq_comm
  · rw [Report.criteria_eq_ok_iff, hforce]
    simp only [Option.mem_def, Option.some.injEq, forall_eq', Option.bind_some]

/-- Two names to choose from. The filter takes each of them, and nothing that goes on behind one. -/
theorem read?_alternatives :
    ∃ p f, written? "a|bc" = some p ∧ read? "a|bc" = some f ∧
      (¬ TakesInClosing "a|bc" ∧ HasRoom "a|bc" ∧
        PatternLibrary.fits (wholeName "a|bc") = true) ∧
      p.Matches #['b', 'c'] 0 2 ∧ ¬ p.Matches #['a', 'b', 'c'] 0 3 := by
  rcases Option.isSome_iff_exists.mp (show (written? "a|bc").isSome by decide +kernel) with
    ⟨p, hp⟩
  have hread : (read? "a|bc").map (fun f => (f.accepts "bc", f.accepts "abc"))
      = some (true, false) := by
    decide +kernel
  rcases Option.map_eq_some_iff.mp hread with ⟨f, hf, haccepts⟩
  rcases Prod.mk.inj haccepts with ⟨hbc, habc⟩
  rcases (read?_spec "a|bc").1 p hp with ⟨hmakes, hmatches⟩
  refine ⟨p, f, hp, hf, hmakes.mp (Option.isSome_iff_exists.mpr ⟨f, hf⟩), ?_, fun hwhole => ?_⟩
  · exact (hmatches f hf "bc").mp hbc
  · have hboth := (hmatches f hf "abc").mpr hwhole
    rw [habc] at hboth
    cases hboth

/-- The parenthesis in the middle closes the group around the expression, so what is no pattern
    makes a filter, and one that accepts more than whole names. A comment takes in the closing, so
    what is a pattern makes none. -/
theorem read?_spliced :
    (parse? "a)|(b" = none ∧ (read? "a)|(b").map (·.accepts "ax") = some true) ∧
    (parse? "(?x)a#b").isSome = true ∧ read? "(?x)a#b" = none := by
  decide +kernel

end NameFilter

end RunReport
