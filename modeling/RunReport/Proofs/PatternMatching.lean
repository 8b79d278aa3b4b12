import Mathlib.Data.Finset.Card
import Mathlib.Data.Finset.Range
import Mathlib.Logic.Function.Iterate
import RunReport.Pattern.Basic

/-!
# Matching a Pattern

The places that the matcher computes are those where a match can end.

`Pattern.Matches` says from where to where a pattern can match, by one rule for each way of writing
it. `Pattern.ends` computes the same for a whole list of places, and only its treatment of
repetitions is not a reading of the rules. A repetition is a chain of matches whose length is within
bounds, `matches_repeated`. The least number of them is made by applying the map so many times. From
there on the matcher keeps what was reached before apart from what is new, and asks only for matches
that start at new places. What carries this is that the ends of matches from all other places have
been reached before. With a bound on the length the chains are counted; without one there is no more
to count than there are places, and every round but the last one finds a new place.

A repetition whose least count is above its greatest matches nothing, but the matcher does not look
at that: it is left to the reader of patterns to refuse it.

## Main definitions

* `Pattern.WellFormed`: No repetition asks for more matches than it allows.
* `Pattern.Chain`: So many steps of a relation one after the other.
* `Pattern.Follows`: A map of lists of places that follows a relation.
* `Pattern.Computed`: The matcher follows the matches of a pattern.
* `Pattern.wholly`: A pattern held to both ends of a text.

## Theorems

* `Pattern.le_size_of_matches`: Matches stay inside of the text.
* `Pattern.matches_repeated`: Repetitions are chains of matches.
* `Pattern.mem_iterated`, `Pattern.mem_reached`, `Pattern.mem_reached_of_fuel`: What each of the two
  loops of the matcher computes.
* `Pattern.mem_reached_between`, `Pattern.mem_reached_from`: What the two compute together.
* `Pattern.mem_ends`: The places that the matcher computes are those where matches end.
* `Pattern.isMatch_iff`: A text is accepted if there is a match in it.
* `Pattern.isMatch_wholly`: Held to both ends, a pattern has to match the whole text.
-/

namespace RunReport

namespace Pattern

/-- No repetition asks for more matches than it allows. -/
def WellFormed : Pattern → Prop
  | seq p q => p.WellFormed ∧ q.WellFormed
  | alt p q => p.WellFormed ∧ q.WellFormed
  | repeated p least most => p.WellFormed ∧ ∀ m ∈ most, least ≤ m
  | _ => True

/-- Matches stay inside of the text. -/
theorem le_size_of_matches {text : Array Char} {p : Pattern} {i j : Nat} (h : Matches text p i j)
    (hi : i ≤ text.size) : j ≤ text.size := by
  induction h with
  | empty i => exact hi
  | char at_i mem =>
      have := (Array.getElem?_eq_some_iff.mp at_i).1
      omega
  | look holds => exact hi
  | seq first second ihp ihq => exact ihq (ihp hi)
  | altLeft left ih => exact ih hi
  | altRight right ih => exact ih hi
  | stop i => exact hi
  | step room once rest ihp ih => exact ih (ihp hi)

/-! ### Chains -/

/-- So many steps of a relation one after the other. -/
def Chain (R : Nat → Nat → Prop) : Nat → Nat → Nat → Prop
  | 0, i, j => i = j
  | n + 1, i, j => ∃ k, R i k ∧ Chain R n k j

/-- Two chains in one. -/
theorem Chain.append {R : Nat → Nat → Prop} {m n i j k : Nat} (h : Chain R m i j)
    (h' : Chain R n j k) : Chain R (m + n) i k := by
  induction m generalizing i with
  | zero =>
      rw [Chain] at h
      rwa [Nat.zero_add, h]
  | succ m ih =>
      rcases h with ⟨l, hl, h⟩
      rw [Nat.succ_add]
      exact ⟨l, hl, ih h⟩

/-- A chain in two. -/
theorem Chain.split {R : Nat → Nat → Prop} {m n i k : Nat} (h : Chain R (m + n) i k) :
    ∃ j, Chain R m i j ∧ Chain R n j k := by
  induction m generalizing i with
  | zero => exact ⟨i, rfl, by rwa [Nat.zero_add] at h⟩
  | succ m ih =>
      rw [Nat.succ_add] at h
      rcases h with ⟨l, hl, h⟩
      rcases ih h with ⟨j, hm, hn⟩
      exact ⟨j, ⟨l, hl, hm⟩, hn⟩

/-- A chain does not leave a set that its steps do not leave. -/
theorem Chain.stays {R : Nat → Nat → Prop} {S : Nat → Prop} (hS : ∀ i j, S i → R i j → S j)
    {n i j : Nat} (h : Chain R n i j) (hi : S i) : S j := by
  induction n generalizing i with
  | zero => exact h ▸ hi
  | succ n ih =>
      rcases h with ⟨k, hk, h⟩
      exact ih h (hS i k hi hk)

/-- Repetitions are chains of matches, of any length within the bounds. -/
theorem matches_repeated (text : Array Char) (p : Pattern) (least : Nat) (most : Option Nat)
    (i j : Nat) :
    Matches text (.repeated p least most) i j ↔
      ∃ n, least ≤ n ∧ (∀ m ∈ most, n ≤ m) ∧ Chain (Matches text p) n i j := by
  constructor
  · intro h
    -- The induction is on the match, and the bounds go down with each round.
    generalize hq : Pattern.repeated p least most = q at h
    induction h generalizing least most with
    | stop i =>
        cases hq
        exact ⟨0, Nat.le_refl 0, fun _ _ => Nat.zero_le _, rfl⟩
    | @step p' least' most' i k j room once rest ihp ih =>
        cases hq
        rcases ih _ _ rfl with ⟨n, hleast, hmost, hchain⟩
        refine ⟨n + 1, by omega, fun m hm => ?_, k, once, hchain⟩
        -- One more round was taken, so there was room for it.
        have hpositive : m ≠ 0 := by
          rintro rfl
          exact room hm
        have := hmost (m - 1) (by rw [Option.mem_def.mp hm]; rfl)
        omega
    | _ => exact absurd hq (by simp)
  · rintro ⟨n, hleast, hmost, hchain⟩
    induction n generalizing i least most with
    | zero =>
        rw [Chain] at hchain
        have hzero : least = 0 := by omega
        rw [hzero, hchain]
        exact .stop j
    | succ n ih =>
        rcases hchain with ⟨k, hk, hchain⟩
        refine .step ?_ hk (ih _ _ k (by omega) (fun m hm => ?_) hchain)
        · rintro rfl
          exact absurd (hmost 0 rfl) (by omega)
        · rcases Option.map_eq_some_iff.mp hm with ⟨m', hm', rfl⟩
          have := hmost m' hm'
          omega

/-! ### The loops -/

section

variable (f : List Nat → List Nat) (R : Nat → Nat → Prop) (size : Nat)

/-- A map of lists of places that follows a relation, which does not leave the text. -/
structure Follows : Prop where
  mem_iff : ∀ s, (∀ i ∈ s, i ≤ size) → ∀ j, j ∈ f s ↔ ∃ i ∈ s, R i j
  le_size : ∀ i j, R i j → i ≤ size → j ≤ size

variable {f R size}

theorem Follows.image_le (h : Follows f R size) (s : List Nat) (hs : ∀ i ∈ s, i ≤ size) :
    ∀ j ∈ f s, j ≤ size := by
  intro j hj
  rcases (h.mem_iff s hs j).mp hj with ⟨i, hi, hij⟩
  exact h.le_size i j hij (hs i hi)

/-- Where nothing changes any more, applying the map again would not change it either. -/
theorem iterated_eq (n : Nat) (s : List Nat) : iterated f n s = f^[n] s := by
  induction n generalizing s with
  | zero => rfl
  | succ n ih =>
      rw [iterated]
      by_cases hfix : f s = s
      · rw [if_pos hfix, Function.iterate_fixed hfix]
      · rw [if_neg hfix, ih]
        rfl

/-- The first loop follows chains of one length. -/
theorem mem_iterated (h : Follows f R size) (n : Nat) (s : List Nat) (hs : ∀ i ∈ s, i ≤ size)
    (j : Nat) : j ∈ iterated f n s ↔ ∃ i ∈ s, Chain R n i j := by
  rw [iterated_eq]
  induction n generalizing s with
  | zero =>
      rw [Function.iterate_zero_apply]
      exact ⟨fun hj => ⟨j, hj, rfl⟩, fun ⟨i, hi, hij⟩ => hij ▸ hi⟩
  | succ n ih =>
      rw [Function.iterate_succ_apply, ih (f s) (h.image_le s hs)]
      constructor
      · rintro ⟨k, hk, hchain⟩
        rcases (h.mem_iff s hs k).mp hk with ⟨i, hi, hik⟩
        exact ⟨i, hi, k, hik, hchain⟩
      · rintro ⟨i, hi, k, hik, hchain⟩
        exact ⟨k, (h.mem_iff s hs k).mpr ⟨i, hi, hik⟩, hchain⟩

/-- What the second loop knows: all places lie in the text, the new ones were reached, and from all
    others it was followed already where they lead. -/
structure Explored (R : Nat → Nat → Prop) (size : Nat) (done new : List Nat) : Prop where
  le_size : ∀ i ∈ done, i ≤ size
  new_mem : ∀ i ∈ new, i ∈ done
  closed : ∀ i ∈ done, i ∉ new → ∀ j, R i j → j ∈ done

/-- The places that are new in the next round. -/
def found (f : List Nat → List Nat) (done new : List Nat) : List Nat :=
  (f new).filter fun i => !done.contains i

theorem mem_found (h : Follows f R size) (done new : List Nat)
    (hexplored : Explored R size done new) (j : Nat) :
    j ∈ found f done new ↔ (∃ i ∈ new, R i j) ∧ j ∉ done := by
  have hsize : ∀ i ∈ new, i ≤ size := fun i hi => hexplored.le_size i (hexplored.new_mem i hi)
  rw [found, List.mem_filter, h.mem_iff new hsize]
  simp

/-- One round more, whether it finds anything or not. -/
theorem Explored.round (h : Follows f R size) (done new : List Nat)
    (hexplored : Explored R size done new) :
    Explored R size (done ++ found f done new) (found f done new) := by
  refine ⟨fun i hi => ?_, fun i hi => List.mem_append_right _ hi, fun i hi hold j hij => ?_⟩
  · rcases List.mem_append.mp hi with hi | hi
    · exact hexplored.le_size i hi
    · rcases ((mem_found h done new hexplored i).mp hi).1 with ⟨k, hk, hki⟩
      exact h.le_size k i hki (hexplored.le_size k (hexplored.new_mem k hk))
  · have hi : i ∈ done := (List.mem_append.mp hi).resolve_right hold
    by_cases hnew : i ∈ new
    · by_cases hj : j ∈ done
      · exact List.mem_append_left _ hj
      · exact List.mem_append_right _ ((mem_found h done new hexplored j).mpr ⟨⟨i, hnew, hij⟩, hj⟩)
    · exact List.mem_append_left _ (hexplored.closed i hi hnew j hij)

/-- Where a round finds nothing, no step leads out of what was reached. -/
theorem Explored.closed_of_found (h : Follows f R size) (done new : List Nat)
    (hexplored : Explored R size done new) (hfound : found f done new = []) :
    ∀ i j, i ∈ done → R i j → j ∈ done := by
  intro i j hi hij
  have hround := hexplored.round h
  rw [hfound, List.append_nil] at hround
  exact hround.closed i hi List.not_mem_nil j hij

theorem reached_succ (n : Nat) (done new : List Nat) :
    reached f (n + 1) done new
      = if found f done new = [] then done
        else reached f n (done ++ found f done new) (found f done new) := by
  rw [reached]
  simp only [found, List.isEmpty_iff]
  rfl

/-- The second loop follows chains up to a length. -/
theorem mem_reached (h : Follows f R size) (n : Nat) (done new : List Nat)
    (hexplored : Explored R size done new) (j : Nat) :
    j ∈ reached f n done new ↔ ∃ i ∈ done, ∃ k ≤ n, Chain R k i j := by
  induction n generalizing done new with
  | zero =>
      rw [reached]
      refine ⟨fun hj => ⟨j, hj, 0, Nat.le_refl 0, rfl⟩, ?_⟩
      rintro ⟨i, hi, k, hk, hchain⟩
      obtain rfl : k = 0 := by omega
      exact hchain ▸ hi
  | succ n ih =>
      rw [reached_succ]
      by_cases hfound : found f done new = []
      · rw [if_pos hfound]
        refine ⟨fun hj => ⟨j, hj, 0, Nat.zero_le _, rfl⟩, ?_⟩
        rintro ⟨i, hi, k, -, hchain⟩
        exact hchain.stays (S := (· ∈ done)) (hexplored.closed_of_found h done new hfound) hi
      · rw [if_neg hfound, ih _ _ (hexplored.round h)]
        constructor
        · rintro ⟨i, hi, k, hk, hchain⟩
          rcases List.mem_append.mp hi with hi | hi
          · exact ⟨i, hi, k, by omega, hchain⟩
          · rcases ((mem_found h done new hexplored i).mp hi).1 with ⟨l, hl, hli⟩
            exact ⟨l, hexplored.new_mem l hl, k + 1, by omega, i, hli, hchain⟩
        · rintro ⟨i, hi, k, hk, hchain⟩
          cases k with
          | zero => exact ⟨i, List.mem_append_left _ hi, 0, Nat.zero_le _, hchain⟩
          | succ k =>
              -- The first step leads to a place that is reached by now.
              rcases hchain with ⟨l, hil, hchain⟩
              have hl : l ∈ done ++ found f done new := by
                by_cases hnew : i ∈ new
                · by_cases hold : l ∈ done
                  · exact List.mem_append_left _ hold
                  · exact List.mem_append_right _
                      ((mem_found h done new hexplored l).mpr ⟨⟨i, hnew, hil⟩, hold⟩)
                · exact List.mem_append_left _ (hexplored.closed i hi hnew l hil)
              exact ⟨l, hl, k, by omega, hchain⟩

/-- The places of a text that were not reached. -/
def missing (size : Nat) (done : List Nat) : Finset Nat :=
  (Finset.range (size + 1)).filter (· ∉ done)

/-- Every round that finds anything leaves fewer places to be reached. -/
theorem missing_lt (h : Follows f R size) (done new : List Nat)
    (hexplored : Explored R size done new) (hfound : found f done new ≠ []) :
    (missing size (done ++ found f done new)).card < (missing size done).card := by
  rcases List.exists_mem_of_ne_nil _ hfound with ⟨i, hi⟩
  have hround := hexplored.round h
  refine Finset.card_lt_card ⟨fun j hj => ?_, fun hsub => ?_⟩
  · rw [missing, Finset.mem_filter] at hj ⊢
    exact ⟨hj.1, fun hold => hj.2 (List.mem_append_left _ hold)⟩
  · have hmissing : i ∈ missing size done := by
      rw [missing, Finset.mem_filter, Finset.mem_range]
      have := hround.le_size i (hround.new_mem i hi)
      exact ⟨by omega, ((mem_found h done new hexplored i).mp hi).2⟩
    have hgone := hsub hmissing
    rw [missing, Finset.mem_filter] at hgone
    exact hgone.2 (hround.new_mem i hi)

/-- Where any place was reached, fewer are left than the text has. -/
theorem missing_lt_of_mem (size : Nat) (done : List Nat) (i : Nat) (hi : i ∈ done)
    (hle : i ≤ size) : (missing size done).card < size + 1 := by
  have hsub : missing size done ⊂ Finset.range (size + 1) :=
    Finset.filter_ssubset.mpr ⟨i, Finset.mem_range.mpr (by omega), fun h => h hi⟩
  have hcard := Finset.card_lt_card hsub
  rwa [Finset.card_range] at hcard

/-- With more rounds than places are left, the second loop follows chains of any length. -/
theorem mem_reached_of_fuel (h : Follows f R size) (n : Nat) (done new : List Nat)
    (hexplored : Explored R size done new) (hfuel : done ≠ [] → (missing size done).card < n)
    (j : Nat) :
    j ∈ reached f n done new ↔ ∃ i ∈ done, ∃ k, Chain R k i j := by
  constructor
  · intro hj
    rcases (mem_reached h n done new hexplored j).mp hj with ⟨i, hi, k, -, hchain⟩
    exact ⟨i, hi, k, hchain⟩
  · -- A round that finds nothing new is the last, and each other one leaves fewer positions to
    -- find.
    induction n generalizing done new with
    | zero =>
        rintro ⟨i, hi, -⟩
        exact absurd (hfuel (List.ne_nil_of_mem hi)) (Nat.not_lt_zero _)
    | succ n ih =>
        rintro ⟨i, hi, k, hchain⟩
        have hleft := hfuel (List.ne_nil_of_mem hi)
        rw [reached_succ]
        by_cases hfound : found f done new = []
        · rw [if_pos hfound]
          exact hchain.stays (S := (· ∈ done)) (hexplored.closed_of_found h done new hfound) hi
        · rw [if_neg hfound]
          have hmissing := missing_lt h done new hexplored hfound
          exact ih _ _ (hexplored.round h) (fun _ => by omega)
            ⟨i, List.mem_append_left _ hi, k, hchain⟩

/-- The second loop starts where the first one has left off. -/
theorem explored_iterated (h : Follows f R size) (least : Nat) (s : List Nat)
    (hs : ∀ i ∈ s, i ≤ size) : Explored R size (iterated f least s) (iterated f least s) := by
  refine ⟨fun k hk => ?_, fun k hk => hk, fun k hk hold => absurd hk hold⟩
  rcases (mem_iterated h least s hs k).mp hk with ⟨i, hi, hchain⟩
  exact hchain.stays (S := (· ≤ size)) (fun i j hi hij => h.le_size i j hij hi) (hs i hi)

/-- Both loops together follow chains whose length is within bounds. -/
theorem mem_reached_between (h : Follows f R size) (least most : Nat) (hle : least ≤ most)
    (s : List Nat) (hs : ∀ i ∈ s, i ≤ size) (j : Nat) :
    j ∈ reached f (most - least) (iterated f least s) (iterated f least s)
      ↔ ∃ i ∈ s, ∃ n, least ≤ n ∧ n ≤ most ∧ Chain R n i j := by
  have hfirst := mem_iterated h least s hs
  rw [mem_reached h _ _ _ (explored_iterated h least s hs)]
  constructor
  · rintro ⟨k, hk, n, hn, hrest⟩
    rcases (hfirst k).mp hk with ⟨i, hi, hchain⟩
    exact ⟨i, hi, least + n, by omega, by omega, hchain.append hrest⟩
  · rintro ⟨i, hi, n, hleast, hmost, hchain⟩
    obtain ⟨d, rfl⟩ := Nat.exists_eq_add_of_le hleast
    rcases hchain.split with ⟨k, hchain, hrest⟩
    exact ⟨k, (hfirst k).mpr ⟨i, hi, hchain⟩, d, by omega, hrest⟩

/-- Both loops together follow chains of a least length, if the second one has a round for every
    place. -/
theorem mem_reached_from (h : Follows f R size) (least : Nat) (s : List Nat)
    (hs : ∀ i ∈ s, i ≤ size) (j : Nat) :
    j ∈ reached f (size + 1) (iterated f least s) (iterated f least s)
      ↔ ∃ i ∈ s, ∃ n, least ≤ n ∧ Chain R n i j := by
  have hfirst := mem_iterated h least s hs
  have hexplored := explored_iterated h least s hs
  -- A round more than there are positions is enough, because one of them is known already.
  have hfuel : iterated f least s ≠ [] → (missing size (iterated f least s)).card < size + 1 := by
    intro hne
    rcases List.exists_mem_of_ne_nil _ hne with ⟨k, hk⟩
    exact missing_lt_of_mem _ _ k hk (hexplored.le_size k hk)
  rw [mem_reached_of_fuel h _ _ _ hexplored hfuel]
  constructor
  · rintro ⟨k, hk, n, hrest⟩
    rcases (hfirst k).mp hk with ⟨i, hi, hchain⟩
    exact ⟨i, hi, least + n, by omega, hchain.append hrest⟩
  · rintro ⟨i, hi, n, hleast, hchain⟩
    obtain ⟨d, rfl⟩ := Nat.exists_eq_add_of_le hleast
    rcases hchain.split with ⟨k, hchain, hrest⟩
    exact ⟨k, (hfirst k).mpr ⟨i, hi, hchain⟩, d, hrest⟩

end

/-! ### The matcher -/

section

variable {text : Array Char} {p q : Pattern}

/-- The matcher follows the matches of a pattern. -/
abbrev Computed (text : Array Char) (p : Pattern) : Prop :=
  Follows (ends text p) (Matches text p) text.size

theorem computed_of_mem_iff (h : ∀ s, (∀ i ∈ s, i ≤ text.size) →
    ∀ j, j ∈ ends text p s ↔ ∃ i ∈ s, Matches text p i j) : Computed text p :=
  ⟨h, fun _ _ hij hi => le_size_of_matches hij hi⟩

theorem computed_empty (text : Array Char) : Computed text .empty := by
  refine computed_of_mem_iff fun s _ j => ⟨fun hj => ⟨j, hj, .empty j⟩, ?_⟩
  rintro ⟨i, hi, ⟨⟩⟩
  exact hi

theorem computed_char (text : Array Char) (set : CharSet) : Computed text (.char set) := by
  refine computed_of_mem_iff fun s _ j => ?_
  rw [ends, List.mem_map]
  constructor
  · rintro ⟨i, hi, rfl⟩
    rw [List.mem_filter] at hi
    cases hc : text[i]? with
    | none => exact absurd hi.2 (by simp [hc])
    | some c => exact ⟨i, hi.1, .char hc (by simpa [hc] using hi.2)⟩
  · rintro ⟨i, hi, hmatch⟩
    cases hmatch with
    | char at_i mem => exact ⟨i, List.mem_filter.mpr ⟨hi, by rw [at_i]; exact mem⟩, rfl⟩

theorem computed_look (text : Array Char) (a : Assertion) : Computed text (.look a) := by
  refine computed_of_mem_iff fun s _ j => ?_
  rw [ends, List.mem_filter]
  constructor
  · rintro ⟨hj, hholds⟩
    exact ⟨j, hj, .look hholds⟩
  · rintro ⟨i, hi, hmatch⟩
    cases hmatch with
    | look holds => exact ⟨hi, holds⟩

theorem Follows.seq (hp : Computed text p) (hq : Computed text q) : Computed text (.seq p q) := by
  refine computed_of_mem_iff fun s hs j => ?_
  rw [ends, hq.mem_iff _ (hp.image_le s hs)]
  constructor
  · rintro ⟨k, hk, hkj⟩
    rcases (hp.mem_iff s hs k).mp hk with ⟨i, hi, hik⟩
    exact ⟨i, hi, .seq hik hkj⟩
  · rintro ⟨i, hi, hmatch⟩
    cases hmatch with
    | seq first second => exact ⟨_, (hp.mem_iff s hs _).mpr ⟨i, hi, first⟩, second⟩

theorem Follows.alt (hp : Computed text p) (hq : Computed text q) : Computed text (.alt p q) := by
  refine computed_of_mem_iff fun s hs j => ?_
  have hmerged : j ∈ ends text (.alt p q) s ↔ j ∈ ends text p s ∨ j ∈ ends text q s := by
    rw [ends, merged, List.mem_append, List.mem_filter]
    by_cases hj : j ∈ ends text p s <;> simp [hj]
  rw [hmerged, hp.mem_iff s hs, hq.mem_iff s hs]
  constructor
  · rintro (⟨i, hi, hij⟩ | ⟨i, hi, hij⟩)
    · exact ⟨i, hi, .altLeft hij⟩
    · exact ⟨i, hi, .altRight hij⟩
  · rintro ⟨i, hi, hmatch⟩
    cases hmatch with
    | altLeft left => exact .inl ⟨i, hi, left⟩
    | altRight right => exact .inr ⟨i, hi, right⟩

theorem Follows.repeated (hp : Computed text p) (least : Nat) (most : Option Nat)
    (hle : ∀ m ∈ most, least ≤ m) : Computed text (.repeated p least most) := by
  refine computed_of_mem_iff fun s hs j => ?_
  simp only [matches_repeated]
  cases most with
  | some m =>
      rw [ends, mem_reached_between hp least m (hle m rfl) s hs]
      simp only [Option.mem_def, Option.some.injEq, forall_eq']
  | none =>
      rw [ends, mem_reached_from hp least s hs]
      simp only [Option.mem_def, reduceCtorEq, false_implies, implies_true, true_and]

theorem computed_of_wellFormed (text : Array Char) (p : Pattern) (hp : p.WellFormed) :
    Computed text p := by
  induction p with
  | empty => exact computed_empty text
  | char set => exact computed_char text set
  | look a => exact computed_look text a
  | seq p q ihp ihq => exact (ihp hp.1).seq (ihq hp.2)
  | alt p q ihp ihq => exact (ihp hp.1).alt (ihq hp.2)
  | repeated p least most ih => exact (ih hp.1).repeated least most hp.2

/-- The places that the matcher computes are those where matches end. -/
theorem mem_ends (text : Array Char) (p : Pattern) (hp : p.WellFormed) (s : List Nat)
    (hs : ∀ i ∈ s, i ≤ text.size) (j : Nat) :
    j ∈ ends text p s ↔ ∃ i ∈ s, Matches text p i j :=
  (computed_of_wellFormed text p hp).mem_iff s hs j

end

/-- A text is accepted if there is a match anywhere in it. -/
theorem isMatch_iff (p : Pattern) (hp : p.WellFormed) (text : String) :
    p.isMatch text = true ↔
      ∃ i ≤ text.toList.toArray.size, ∃ j, Matches text.toList.toArray p i j := by
  have hrange : ∀ i, i ∈ List.range (text.toList.toArray.size + 1)
      ↔ i ≤ text.toList.toArray.size := fun i => by
    rw [List.mem_range]
    omega
  have hends := mem_ends text.toList.toArray p hp _ fun i hi => (hrange i).mp hi
  -- A text has a match somewhere if some position is an end.
  have hne : p.isMatch text = true
      ↔ p.ends text.toList.toArray (List.range (text.toList.toArray.size + 1)) ≠ [] := by
    rw [isMatch, Bool.not_eq_true', List.isEmpty_eq_false_iff]
  rw [hne]
  constructor
  · intro h
    rcases List.exists_mem_of_ne_nil _ h with ⟨j, hj⟩
    rcases (hends j).mp hj with ⟨i, hi, hij⟩
    exact ⟨i, (hrange i).mp hi, j, hij⟩
  · rintro ⟨i, hi, j, hij⟩
    exact List.ne_nil_of_mem ((hends j).mpr ⟨i, (hrange i).mpr hi, hij⟩)

/-- A pattern held to both ends of a text. -/
def wholly (p : Pattern) : Pattern :=
  seq (look .textStart) (seq p (look .textEnd))

/-- Held to both ends, a pattern has to match the whole text. -/
theorem isMatch_wholly (p : Pattern) (hp : p.WellFormed) (text : String) :
    p.wholly.isMatch text = true
      ↔ Matches text.toList.toArray p 0 text.toList.toArray.size := by
  rw [isMatch_iff p.wholly ⟨trivial, hp, trivial⟩]
  generalize text.toList.toArray = cs
  constructor
  · rintro ⟨i, hi, j, hij⟩
    cases hij with
    | seq first rest =>
        cases first with
        | look hstart =>
            cases rest with
            | seq hmatch last =>
                cases last with
                | look hend =>
                    -- The two assertions leave no position but the first and the last.
                    have hzero : i = 0 := by
                      by_contra hne
                      have hbefore : cs[i - 1]? = none := by
                        simpa [holdsAt, Assertion.holds, before?, hne] using hstart
                      rw [Array.getElem?_eq_none_iff] at hbefore
                      omega
                    have hafter : cs[j]? = none := by
                      simpa [holdsAt, Assertion.holds] using hend
                    rw [Array.getElem?_eq_none_iff] at hafter
                    have hle := le_size_of_matches hmatch hi
                    have hj : j = cs.size := by omega
                    rwa [hzero, hj] at hmatch
  · intro hmatch
    refine ⟨0, Nat.zero_le _, cs.size, .seq (.look rfl) (.seq hmatch (.look ?_))⟩
    simp [holdsAt, Assertion.holds]

end Pattern

end RunReport
