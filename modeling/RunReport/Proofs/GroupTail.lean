import RunReport.Proofs.GroupReading
import RunReport.Proofs.PatternTail

/-!
# Groups with a Tail

What is read of a group does not change if a parenthesis and a dollar are put behind it.

For starts of groups and for counts this goes as for the parts of a pattern. A part of a group can
get stuck as an escape can, `StuckMove`, and `readGroup_stuck` settles what becomes of it: an
opening brace with nothing but the tail behind it is read as a repetition without a count, and there
is no such repetition. So both readings fail, and no exception is left in the theorem about groups.

The induction is on the bound for the shorter text. Both bounds only have to exceed the length of
their text, since every part takes a character or ends the group.

## Main definitions

* `Pattern.StuckMove`: A part before an opening brace behind which there is nothing.

## Theorems

* `Pattern.opening_agrees`: Starts of groups agree.
* `Pattern.counts_agrees`, `Pattern.counts_tail`: Counts in braces agree, and the tail has none.
* `Pattern.move_agrees`: Parts of a group agree unless they get stuck.
* `Pattern.readGroup_stuck`: A group that got stuck is not read.
* `Pattern.readGroup_agrees`: Groups agree.
-/

namespace RunReport

namespace Pattern

variable {w : List Char}

/-! ### Starts of groups -/

theorem dropWhile_angle (hw : IsTail w) : (w.dropWhile fun c => decide (c ≠ '>')) = [] := by
  rcases hw with rfl | rfl
  · rfl
  · rfl

theorem groupName_tail (hw : IsTail w) (cs : List Char) :
    groupName (cs ++ w) = (groupName cs).map fun m => (m.1, m.2 ++ w) := by
  rw [groupName_eq, groupName_eq]
  rcases dropWhile_tail _ (dropWhile_angle hw) cs with ⟨hcs, hds⟩ | ⟨hdrop, htake⟩
  · rw [hcs, hds]
    rfl
  · rw [hdrop, htake]
    generalize (cs.takeWhile fun c => decide (c ≠ '>')) = name
    cases cs.dropWhile fun c => decide (c ≠ '>') with
    | nil =>
        rcases hw with rfl | rfl
        · rfl
        · simp [afterGroupName]
    | cons c rest =>
        rw [List.cons_append, afterGroupName, afterGroupName]
        split <;> rfl

theorem named_agrees (hw : IsTail w) (f : Flags) (cs : List Char) :
    Agrees w (named f cs) (named f (cs ++ w)) := by
  unfold named
  rw [groupName_tail hw]
  cases groupName cs with
  | none => exact .nothing
  | some m => exact .found _ (Grows.refl w m.2)

/-- Flags may reach up to the tail, but a group cannot end there. -/
theorem readSwitches_agrees (f : Flags) (seen cs : List Char) :
    AgreesBut w (fun _ r => r = []) (readSwitches f seen cs) (readSwitches f seen (cs ++ w)) := by
  induction cs generalizing f seen with
  | nil =>
      constructor
      · -- Switches that are cut off by the end may go on in the tail, but then they take all of it.
        intro x r h
        have hlen := (readSwitches_suffix f seen w _ x h).length_le
        rw [List.length_append] at hlen
        exact .inr (List.length_eq_zero_iff.mp (by omega))
      · intro x r h
        exact absurd h (by simp [readSwitches, switches])
  | cons c cs ih =>
      rw [List.cons_append, readSwitches_cons, readSwitches_cons]
      split
      · split
        · exact .nothing
        · exact .found _ (Grows.refl w (c :: cs))
      split
      · exact .nothing
      split
      · exact ih _ _
      · cases f.switch (!seen.contains '-') c with
        | none => exact .nothing
        | some g => exact ih g _

theorem afterSwitches_agrees (g : Flags) (seen cs : List Char) :
    Agrees w (afterSwitches g seen cs) (afterSwitches g seen (cs ++ w)) := by
  cases cs with
  | nil => exact .of_rest (afterSwitches_rest g seen w)
  | cons c cs =>
      rw [List.cons_append, afterSwitches, afterSwitches]
      split
      · exact .found _ (Grows.refl w cs)
      split
      · split
        · exact .nothing
        · exact .found _ (Grows.refl w cs)
      · exact .nothing

/-- A character in front that is not in the tail is not there because of the tail. -/
theorem head?_tail (hw : IsTail w) (cs : List Char) (d : Char) (hd : d ≠ ')') :
    (cs ++ w).head? = some d ↔ cs.head? = some d := by
  cases cs with
  | nil =>
      rcases hw with rfl | rfl
      · rfl
      · simp [Ne.symm hd]
  | cons e cs => rfl

theorem special_agrees (hw : IsTail w) (f : Flags) (cs : List Char) :
    Agrees w (special f cs) (special f (cs ++ w)) := by
  cases cs with
  | nil =>
      rcases hw with rfl | rfl
      · exact .nothing
      · exact .nothing
  | cons c cs =>
      simp only [List.cons_append, special, head?_tail hw cs '=' (by decide),
        head?_tail hw cs '!' (by decide), head?_tail hw cs '<' (by decide)]
      split
      · exact .nothing
      split
      · split
        · exact .nothing
        · exact named_agrees hw f cs
      split
      · split
        · next hangle =>
            rcases List.head?_eq_some_iff.mp hangle with ⟨more, rfl⟩
            exact named_agrees hw f more
        · exact .nothing
      · rw [← List.cons_append]
        refine (readSwitches_agrees f [] (c :: cs)).bind (k := fun m => afterSwitches m.1 m.2)
          (l := fun m => afterSwitches m.1 m.2)
          (fun m cs r x h => (afterSwitches_rest _ _ cs r x h).1) (fun _ _ => rfl)
          (fun m r _ => afterSwitches_agrees m.1 m.2 r) ?_
        -- If the switches took the tail, there is nothing left to open a group with.
        rintro m r x r' rfl h
        exact not_rest_append r' w (afterSwitches_rest _ _ w _ x h)

theorem openingAt_agrees (hw : IsTail w) (f : Flags) (cs : List Char) :
    Agrees w (openingAt f cs) (openingAt f (cs ++ w)) := by
  cases cs with
  | nil =>
      rcases hw with rfl | rfl
      · exact .found _ (Grows.refl _ _)
      · exact .found _ (Grows.refl _ _)
  | cons c cs =>
      rw [List.cons_append, openingAt, openingAt]
      split
      · exact special_agrees hw f cs
      · exact .found _ (Grows.refl w (c :: cs))

theorem opening_agrees (hw : IsTail w) (f : Flags) (cs : List Char) :
    Agrees w (opening f cs) (opening f (cs ++ w)) := by
  rw [opening_eq, opening_eq]
  exact .behind hw f cs (openingAt_suffix f) rfl (openingAt_agrees hw f _)

/-! ### Counts of repetitions -/

theorem finishCounts_agrees (hw : IsTail w) (f : Flags) (least : Nat) (most : Option Nat)
    (cs : List Char) :
    Agrees w (finishCounts f least most cs) (finishCounts f least most (cs ++ w)) := by
  unfold finishCounts
  split
  · exact .found _ ((skip_grows hw f cs).afterLazy hw)
  · exact .nothing

theorem afterMost_agrees (hw : IsTail w) (f : Flags) (least : Nat) (most : Option Nat)
    (cs : List Char) : Agrees w (afterMost f least most cs) (afterMost f least most (cs ++ w)) := by
  cases cs with
  | nil =>
      rcases hw with rfl | rfl
      · exact .nothing
      · exact .nothing
  | cons c cs =>
      rw [List.cons_append, afterMost, afterMost]
      split
      · exact finishCounts_agrees hw f least most cs
      · exact .nothing

theorem greatest_agrees (hw : IsTail w) (f : Flags) (least : Nat) (cs : List Char) :
    Agrees w (greatest f least cs) (greatest f least (cs ++ w)) := by
  cases cs with
  | nil =>
      -- A tail begins with no number and with no brace.
      have hnone : greatest f least w = none := by
        rcases hw with rfl | rfl
        · rfl
        · rw [greatest, if_neg (by decide), count_tail (.inr rfl)]
          rfl
      rw [List.nil_append, hnone]
      exact .nothing
  | cons c cs =>
      rw [List.cons_append, greatest, greatest]
      split
      · exact finishCounts_agrees hw f least none cs
      · exact (count_agrees hw f (c :: cs)).bind (k := fun most => afterMost f least (some most))
          (l := fun most => afterMost f least (some most))
          (fun most => afterMost_suffix f least (some most)) (fun _ _ => rfl)
          (fun most r _ => afterMost_agrees hw f least (some most) r) (fun _ _ _ _ h _ => h)

theorem afterLeast_agrees (hw : IsTail w) (f : Flags) (least : Nat) (cs : List Char) :
    Agrees w (afterLeast f least cs) (afterLeast f least (cs ++ w)) := by
  cases cs with
  | nil => exact .of_rest (afterLeast_rest f least w)
  | cons c cs =>
      rw [List.cons_append, afterLeast, afterLeast]
      split
      · exact finishCounts_agrees hw f least (some least) cs
      split
      · exact .behind hw f cs (greatest_suffix f least) rfl (greatest_agrees hw f least _)
      · exact .nothing

theorem counts_agrees (hw : IsTail w) (f : Flags) (cs : List Char) :
    Agrees w (counts f cs) (counts f (cs ++ w)) := by
  rw [counts_eq, counts_eq]
  have hcount : Agrees w (count f (skip f cs)) (count f (skip f (cs ++ w))) :=
    .behind hw f cs (count_suffix f) rfl (count_agrees hw f _)
  exact hcount.bind (k := fun least => afterLeast f least) (l := fun least => afterLeast f least)
    (fun least cs r x h => (afterLeast_rest f least cs r x h).1) (fun _ _ => rfl)
    (fun least r _ => afterLeast_agrees hw f least r) (fun _ _ _ _ h _ => h)

/-- There is no repetition where a brace is opened and nothing but the tail follows it. -/
theorem counts_tail (hw : IsTail w) (f : Flags) (more : List Char) (h : skip f more = []) :
    counts f (more ++ w) = none := by
  have hgrows := skip_grows hw f more
  rw [h] at hgrows
  rw [counts_eq]
  rcases hgrows with hskip | ⟨-, hskip⟩
  · rw [hskip, List.nil_append, count_tail hw]
    rfl
  · rw [hskip, count_tail (.inl rfl)]
    rfl

/-! ### Steps -/

/-- A part read on from where an opened brace follows and nothing else. -/
def StuckMove (s : State) (m : Move) (r : List Char) : Prop :=
  (∃ t, m = .go t ∧ t.flags = s.flags) ∧ ∃ more, r = '\x7b' :: more ∧ skip s.flags more = []

variable [UnicodeNames]

theorem moveAt_agrees (hw : IsTail w) (s : State) (c : Char) (cs : List Char) :
    AgreesBut w (StuckMove s) (moveAt s c cs) (moveAt s c (cs ++ w)) := by
  unfold moveAt
  cases partOf c with
  | close => exact .found _ (Grows.refl w (c :: cs))
  | bar => exact .found _ (Grows.refl w cs)
  | group => exact (opening_agrees hw s.flags cs).filterMap s.opened fun _ _ _ h _ => h.elim
  | set =>
      exact (bracketed_agrees hw s.flags cs).map
        (fun b => Move.go (s.push (.term ⟨.char b.set, b.depth⟩))) fun _ _ h => h.elim
  | repetition least most =>
      simp only
      cases s.repeating least most with
      | none => exact .nothing
      | some m => exact .found m ((Grows.refl w cs).afterLazy hw)
  | counts =>
      exact (counts_agrees hw s.flags cs).filterMap (fun b => s.repeating b.1 b.2)
        fun _ _ _ h _ => h.elim
  -- Only an escape can be stuck, because a brace behind it may be a boundary's.
  | escape =>
      refine (escape_agrees hw s.flags cs).filterMap
        (fun e => (ofEscaped s.flags e).map s.adding) ?_
      rintro x r y ⟨⟨a, rfl⟩, hbrace⟩ hy
      exact ⟨⟨_, (Option.some.inj hy).symm, rfl⟩, hbrace⟩
  | char =>
      simp only
      cases (plain s.flags c).map s.adding with
      | none => exact .nothing
      | some m => exact .found m (Grows.refl w cs)

theorem move_agrees (hw : IsTail w) (s : State) (cs : List Char) :
    AgreesBut w (StuckMove s) (move s cs) (move s (cs ++ w)) := by
  cases cs with
  | nil =>
      rcases hw with rfl | rfl
      · exact .found _ (Grows.refl _ _)
      · exact .found _ (Grows.refl _ _)
  | cons c cs => exact moveAt_agrees hw s c cs

theorem readGroup_nil (n : Nat) (hn : 0 < n) (s : State) :
    readGroup n s [] = some ((s.finished, s.names), []) := by
  cases n with
  | zero => exact absurd hn (Nat.lt_irrefl _)
  | succ n =>
      rw [readGroup_succ, skip_nil]
      rfl

/-- Where an opened brace follows and nothing else, the group is not read. -/
theorem readGroup_stuck (hw : IsTail w) (n : Nat) (s t : State) (hflags : t.flags = s.flags)
    (more : List Char) (h : skip s.flags more = []) :
    readGroup n t ('\x7b' :: more ++ w) = none := by
  cases n with
  | zero => rfl
  | succ n =>
      have hskip : skip t.flags ('\x7b' :: more ++ w) = '\x7b' :: more ++ w := by
        unfold skip
        split <;> rfl
      have hmove : move t ('\x7b' :: (more ++ w)) = (counts t.flags (more ++ w)).bind fun b =>
          (t.repeating b.1.1 b.1.2).map (·, b.2) := rfl
      rw [readGroup_succ, hskip, List.cons_append, hmove, hflags, counts_tail hw s.flags more h]
      rfl

theorem afterGroup_agrees (hw : IsTail w) (n m : Nat) (s : State) (inner : Term × List String)
    (cs : List Char) (hread : ∀ s c r, cs = c :: r →
      Agrees w (readGroup n s r) (readGroup m s (r ++ w))) :
    Agrees w (afterGroup (readGroup n) s inner cs)
      (afterGroup (readGroup m) s inner (cs ++ w)) := by
  cases cs with
  | nil =>
      -- An open group is closed by the parenthesis of the tail, if the tail has one.
      refine .of_rest fun r x h => ?_
      rcases hw with rfl | rfl
      · exact absurd h (by simp [afterGroup])
      · rw [List.nil_append, afterGroup, if_pos rfl] at h
        exact .cons (readGroup_suffix m _ _ r x h).1 _
  | cons c cs =>
      rw [List.cons_append, afterGroup, afterGroup]
      split
      · exact hread _ c cs rfl
      · exact .nothing

/-- What a part leads to is the same with the tail, if it is for all groups that are as short. -/
theorem proceed_agrees (hw : IsTail w) (n m : Nat) (s : State) (x : Move) (r : List Char)
    (hread : ∀ t (ds : List Char), ds.length ≤ r.length →
      Agrees w (readGroup n t ds) (readGroup m t (ds ++ w))) :
    Agrees w (proceed (readGroup n) s x r) (proceed (readGroup m) s x (r ++ w)) := by
  cases x with
  | finish => exact .found _ (Grows.refl w r)
  | go t => exact hread t r (Nat.le_refl _)
  | enter flags name =>
      refine (hread _ r (Nat.le_refl _)).bind (k := afterGroup (readGroup n) s)
        (l := afterGroup (readGroup m) s) ?_ (fun _ _ => rfl) ?_ (fun _ _ _ _ h _ => h)
      · exact fun inner ds rest y h =>
          (afterGroup_suffix m (readGroup_suffix m) s inner ds rest y h).1
      · intro inner rest hinner
        refine afterGroup_agrees hw n m s inner rest fun t c more hmore => ?_
        -- The group took something, so what stands behind it is shorter.
        have hle := (readGroup_suffix n _ r rest inner hinner).1.length_le
        rw [hmore, List.length_cons] at hle
        exact hread t more (by omega)

theorem proceed_nil (n m : Nat) (hn : 0 < n) (hm : 0 < m) (s : State) (x : Move) :
    proceed (readGroup n) s x [] = proceed (readGroup m) s x [] := by
  cases x with
  | finish => rfl
  | go t => rw [proceed, proceed, readGroup_nil n hn, readGroup_nil m hm]
  | enter flags name =>
      rw [proceed, proceed, readGroup_nil n hn, readGroup_nil m hm]
      rfl

/-- The same is read of a group with a tail behind it. -/
theorem readGroup_agrees (hw : IsTail w) (n m : Nat) (s : State) (cs : List Char)
    (hn : cs.length < n) (hm : (cs ++ w).length < m) :
    Agrees w (readGroup n s cs) (readGroup m s (cs ++ w)) := by
  -- Each step leaves a shorter text, so both bounds stay large enough for what is left.
  induction n generalizing m s cs with
  | zero => exact absurd hn (Nat.not_lt_zero _)
  | succ n ih =>
      cases m with
      | zero => exact absurd hm (Nat.not_lt_zero _)
      | succ m =>
          have hlen := (skip_suffix s.flags cs).length_le
          rw [List.length_append] at hm
          rw [readGroup_succ, readGroup_succ]
          have hmove : AgreesBut w (StuckMove s) (move s (skip s.flags cs))
              (move s (skip s.flags (cs ++ w))) :=
            .behind hw s.flags cs (move_suffix s) rfl (move_agrees hw s _)
          refine hmove.bind (k := proceed (readGroup n) s) (l := proceed (readGroup m) s)
            (proceed_leaves m s) ?_ ?_ ?_
          · intro x hx
            rcases move_cases s _ [] x hx with ⟨rfl, -⟩ | ⟨-, hrest⟩
            · rfl
            · have hpos : 0 < cs.length := Nat.lt_of_lt_of_le hrest.2 hlen
              exact proceed_nil n m (by omega) (by omega) s x
          · intro x r hx
            rcases move_cases s _ r x hx with ⟨rfl, -⟩ | ⟨-, hrest⟩
            · exact .found _ (Grows.refl w r)
            · have hr : r.length < cs.length := Nat.lt_of_lt_of_le hrest.2 hlen
              refine proceed_agrees hw n m s x r fun t ds hds => ?_
              exact ih m t ds (by omega) (by rw [List.length_append]; omega)
          · -- A step that ends inside of the tail leads to no pattern.
            rintro x r y r' ⟨⟨t, rfl, hflags⟩, more, rfl, hmore⟩ h
            rw [proceed, readGroup_stuck hw m s t hflags more hmore] at h
            exact absurd h (by simp)

end Pattern

end RunReport
