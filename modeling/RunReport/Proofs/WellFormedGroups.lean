import RunReport.Proofs.GroupReading
import RunReport.Proofs.PatternMatching

/-!
# What Is Read Is Well Formed

No pattern that is read has a repetition that asks for more matches than it allows.

Repetitions come from three characters, whose counts are in order, and from braces, where the reader
compares the counts before it goes on. Everything else only puts patterns together, so that the
parts read so far stay well formed with each part that is added, and the sequences and alternatives
made of them are well formed at the end of the group.

## Main definitions

* `Pattern.Item.WellFormed`, `Pattern.State.WellFormed`: All that was read so far is well formed.

## Theorems

* `Pattern.counts_le`: Counts that are read are in order.
* `Pattern.moveAt_wellFormed`: A part that is read leaves what was read well formed.
* `Pattern.readGroup_wellFormed`: A group that is read is well formed.
-/

namespace RunReport

namespace Pattern

/-- A member of a sequence whose pattern, if it is a part, is well formed. -/
def Item.WellFormed : Item → Prop
  | .term t => t.pattern.WellFormed
  | .directive => True

/-- All that was read of a group so far is well formed. -/
structure State.WellFormed (s : State) : Prop where
  items : ∀ i ∈ s.items, i.WellFormed
  alternatives : ∀ t ∈ s.alternatives, t.pattern.WellFormed

/-! ### Sequences and alternatives -/

theorem sequence_wellFormed (items : List Item) (h : ∀ i ∈ items, i.WellFormed) :
    (sequence items).pattern.WellFormed := by
  unfold sequence
  simp only
  induction items with
  | nil => exact trivial
  | cons i items ih =>
      have hrest := ih fun j hj => h j (List.mem_cons_of_mem i hj)
      cases i with
      | directive => exact hrest
      | term t =>
          have ht : t.pattern.WellFormed := h _ List.mem_cons_self
          simp only [List.filterMap_cons, List.foldr_cons]
          split
          · exact ht
          · exact ⟨ht, hrest⟩

theorem alternatives_wellFormed (terms : List Term) (h : ∀ t ∈ terms, t.pattern.WellFormed) :
    (Pattern.alternatives terms).pattern.WellFormed := by
  have hfold : ∀ (ts : List Term) (p : Pattern), p.WellFormed → (∀ t ∈ ts, t.pattern.WellFormed) →
      (ts.foldl (fun p u => .alt p u.pattern) p).WellFormed := by
    intro ts
    induction ts with
    | nil => exact fun p hp _ => hp
    | cons t ts ih =>
        intro p hp hts
        exact ih _ ⟨hp, hts t List.mem_cons_self⟩ fun u hu => hts u (List.mem_cons_of_mem t hu)
  match terms with
  | [] => exact trivial
  | [t] => exact h t List.mem_cons_self
  | t :: u :: ts =>
      exact hfold (u :: ts) t.pattern (h t List.mem_cons_self) fun v hv =>
        h v (List.mem_cons_of_mem t hv)

theorem State.WellFormed.finished {s : State} (h : s.WellFormed) :
    s.finished.pattern.WellFormed := by
  refine alternatives_wellFormed _ fun t ht => ?_
  rcases List.mem_append.mp ht with ht | ht
  · exact h.alternatives t (List.mem_reverse.mp ht)
  · rw [List.mem_singleton.mp ht]
    exact sequence_wellFormed _ fun i hi => h.items i (List.mem_reverse.mp hi)

theorem State.WellFormed.push {s : State} (h : s.WellFormed) {i : Item} (hi : i.WellFormed) :
    (s.push i).WellFormed where
  items j hj := by
    rcases List.mem_cons.mp hj with rfl | hj
    · exact hi
    · exact h.items j hj
  alternatives := h.alternatives

/-! ### Steps -/

theorem ofEscaped_wellFormed (f : Flags) (e : Escaped) (p : Pattern) (h : ofEscaped f e = some p) :
    p.WellFormed := by
  unfold ofEscaped at h
  split at h
  · split at h
    · exact absurd h (by simp)
    split at h
    · exact Option.some.inj h ▸ trivial
    · exact Option.some.inj h ▸ trivial
  · exact Option.some.inj h ▸ trivial
  · exact Option.some.inj h ▸ trivial

theorem plain_wellFormed (f : Flags) (c : Char) (p : Pattern) (h : plain f c = some p) :
    p.WellFormed := by
  unfold plain at h
  split at h
  · split at h
    · exact absurd h (by simp)
    split at h
    · exact Option.some.inj h ▸ trivial
    split at h
    · exact Option.some.inj h ▸ trivial
    · exact Option.some.inj h ▸ trivial
  · exact Option.some.inj h ▸ trivial
  · exact Option.some.inj h ▸ trivial
  · exact ofEscaped_wellFormed f _ p h

/-- Counts that are read are in order. -/
theorem finishCounts_le (f : Flags) (least : Nat) (most : Option Nat) (cs r : List Char)
    (x : Nat × Option Nat) (h : finishCounts f least most cs = some (x, r)) :
    ∀ m ∈ x.2, x.1 ≤ m := by
  unfold finishCounts at h
  split at h
  · next hall =>
      rw [Option.some.injEq, Prod.mk.injEq] at h
      rw [← h.1]
      intro m hm
      have hmost : most = some m := hm
      rw [hmost] at hall
      simpa using hall
  · exact absurd h (by simp)

theorem counts_le (f : Flags) (cs r : List Char) (x : Nat × Option Nat)
    (h : counts f cs = some (x, r)) : ∀ m ∈ x.2, x.1 ≤ m := by
  rw [counts_eq] at h
  rcases Option.bind_eq_some_iff.mp h with ⟨⟨least, _ | ⟨c, rest⟩⟩, -, h⟩
  · exact absurd h (by simp [afterLeast])
  -- Each of the three forms ends in the same comparison of its bounds.
  simp only [afterLeast] at h
  split at h
  · exact finishCounts_le f _ _ rest r x h
  split at h
  · generalize skip f rest = ds at h
    cases ds with
    | nil => exact absurd h (by simp [greatest])
    | cons d ds =>
        rw [greatest] at h
        split at h
        · exact finishCounts_le f _ _ ds r x h
        · rcases Option.bind_eq_some_iff.mp h with ⟨⟨most, _ | ⟨e, es⟩⟩, -, h⟩
          · exact absurd h (by simp [afterMost])
          simp only [afterMost] at h
          split at h
          · exact finishCounts_le f _ _ es r x h
          · exact absurd h (by simp)
  · exact absurd h (by simp)

theorem State.WellFormed.repeating {s : State} (hs : s.WellFormed) (least : Nat)
    (most : Option Nat) (hle : ∀ m ∈ most, least ≤ m) (t : State)
    (h : s.repeating least most = some (.go t)) : t.WellFormed := by
  simp only [State.repeating, Option.map_eq_some_iff, Move.go.injEq] at h
  rcases h with ⟨items, hitems, rfl⟩
  refine ⟨fun i hi => ?_, hs.alternatives⟩
  unfold repeatLast at hitems
  split at hitems
  · next u rest heq =>
      have hold : ∀ j ∈ Item.term u :: rest, j.WellFormed := fun j hj => hs.items j (heq ▸ hj)
      rw [← Option.some.inj hitems] at hi
      rcases List.mem_cons.mp hi with rfl | hi
      · exact ⟨hold _ List.mem_cons_self, hle⟩
      · exact hold i (List.mem_cons_of_mem _ hi)
  · exact absurd hitems (by simp)

variable [UnicodeNames]

/-- A part that is read leaves what was read well formed. -/
theorem moveAt_wellFormed (s : State) (hs : s.WellFormed) (c : Char) (rest r : List Char)
    (t : State) (h : moveAt s c rest = some (.go t, r)) : t.WellFormed := by
  -- A repetition of the last part and a new part are each made in several branches.
  have hrepeat : ∀ least most (rest' : List Char), (∀ m ∈ most, least ≤ m) →
      (s.repeating least most).map (·, rest') = some (.go t, r) → t.WellFormed := by
    intro least most rest' hle h
    simp only [Option.map_eq_some_iff, Prod.mk.injEq] at h
    rcases h with ⟨m, hm, rfl, -⟩
    exact hs.repeating least most hle t hm
  have hadd : ∀ (p? : Option Pattern) (rest' : List Char), (∀ p ∈ p?, p.WellFormed) →
      (p?.map s.adding).map (·, rest') = some (.go t, r) → t.WellFormed := by
    intro p? rest' hp h
    simp only [Option.map_eq_some_iff, Prod.mk.injEq] at h
    rcases h with ⟨-, ⟨p, hp?, rfl⟩, hm, -⟩
    exact Move.go.inj hm ▸ hs.push (i := .term ⟨p, 0⟩) (hp p hp?)
  unfold moveAt at h
  split at h
  · exact absurd h (by simp)
  · rw [Option.some.injEq, Prod.mk.injEq] at h
    rw [← Move.go.inj h.1]
    refine ⟨fun i hi => absurd hi List.not_mem_nil, fun u hu => ?_⟩
    rcases List.mem_cons.mp hu with rfl | hu
    · exact sequence_wellFormed _ fun i hi => hs.items i (List.mem_reverse.mp hi)
    · exact hs.alternatives u hu
  · rcases Option.bind_eq_some_iff.mp h with ⟨⟨o, rest'⟩, -, h⟩
    simp only [Option.map_eq_some_iff, Prod.mk.injEq] at h
    rcases h with ⟨m, hopened, rfl, -⟩
    cases o with
    | directive flags =>
        have hpush : (State.push s .directive).WellFormed := hs.push trivial
        exact Move.go.inj (Option.some.inj hopened) ▸ ⟨hpush.items, hpush.alternatives⟩
    | group flags name =>
        rw [State.opened] at hopened
        split at hopened
        · exact absurd hopened (by simp)
        · exact absurd hopened (by simp)
  · simp only [Option.map_eq_some_iff, Prod.mk.injEq, Prod.exists] at h
    rcases h with ⟨set, -, -, hm, -⟩
    exact Move.go.inj hm ▸ hs.push (i := .term ⟨.char set.set, set.depth⟩) trivial
  · next least most hpart =>
      exact hrepeat least most _ (le_of_partOf_repetition c least most hpart) h
  · rcases Option.bind_eq_some_iff.mp h with ⟨⟨b, rest'⟩, hcounts, h⟩
    exact hrepeat b.1 b.2 rest' (counts_le s.flags rest rest' b hcounts) h
  · rcases Option.bind_eq_some_iff.mp h with ⟨⟨e, rest'⟩, -, h⟩
    exact hadd _ rest' (ofEscaped_wellFormed s.flags e) h
  · exact hadd _ rest (plain_wellFormed s.flags c) h

/-- A group that is read is well formed. -/
theorem readGroup_wellFormed (n : Nat) (s : State) (hs : s.WellFormed) (cs r : List Char)
    (x : Term × List String) (h : readGroup n s cs = some (x, r)) : x.1.pattern.WellFormed := by
  induction n generalizing s cs r x with
  | zero => exact absurd h (by simp [readGroup, group])
  | succ n ih =>
      rw [readGroup_succ] at h
      rcases Option.bind_eq_some_iff.mp h with ⟨⟨m, rest⟩, hmove, h⟩
      cases m with
      | finish =>
          simp only [proceed, Option.some.injEq, Prod.mk.injEq] at h
          rw [← h.1]
          exact hs.finished
      | go t =>
          have ht : t.WellFormed := by
            cases hskip : skip s.flags cs with
            | nil =>
                rw [hskip] at hmove
                exact absurd hmove (by simp [move])
            | cons c ds =>
                rw [hskip] at hmove
                exact moveAt_wellFormed s hs c ds rest t hmove
          exact ih t ht rest r x h
      | enter flags name =>
          rcases Option.bind_eq_some_iff.mp h with ⟨⟨inner, _ | ⟨c, rest'⟩⟩, hinner, h⟩
          · exact absurd h (by simp [afterGroup])
          -- A group starts with nothing in it, so its own state is well formed.
          have hin : inner.1.pattern.WellFormed :=
            ih _ ⟨fun i hi => absurd hi List.not_mem_nil, fun t ht => absurd ht List.not_mem_nil⟩
              rest _ inner hinner
          simp only [afterGroup] at h
          split at h
          · have hnames : ({ s with names := inner.2 } : State).WellFormed :=
              ⟨hs.items, hs.alternatives⟩
            have hpush := hnames.push (i := .term ⟨inner.1.pattern, inner.1.depth + 1⟩) hin
            exact ih _ hpush rest' r x h
          · exact absurd h (by simp)

end Pattern

end RunReport
