import RunReport.Proofs.PatternReading

/-!
# Patterns with a Tail

What is read of a part of a pattern does not change if a parenthesis and a dollar are put behind it.

A reader that is given more text may read more, but only if it asks for a character where its text
ended before. Where it asks for a closing parenthesis it takes one out of the tail, and the tail is
not left as it was. Where it asks for anything else it does the same with the tail as without, and
leaves it. There are two exceptions. A comment takes in whatever follows it up to the end of the
line, the tail included, and then nothing is left of either text; `Grows` allows for this. And a
word boundary looks for an opening brace and one character more, since a name in braces may follow
it: before an opening brace and the end of the text it fails, while before an opening brace and the
tail it is a word boundary and leaves the brace.

The second exception concerns no pattern, because a brace that opens a repetition has to be followed
by a count. But that is for the reader of the group to find out, so agreement is stated apart from
results that get stuck later, `AgreesBut`. Agreement has two directions that are not alike. What is
read of the short text is read of the long one. What is read of the long text counts only if the
whole tail is left, since otherwise there is nothing left to close the group with.

A tail may also be empty. Then agreement says that the bound on how far a reader may go does not
matter, which comes out of the same induction.

## Main definitions

* `Pattern.IsTail`: What closes the pattern around an expression, or nothing.
* `Pattern.Grows`: A text and the same text with a tail, unless a comment took in the tail.
* `Pattern.AgreesBut`, `Pattern.Agrees`: The same is read of a text with a tail and without.
* `Pattern.Leaves`: A reader leaves the end of its text.
* `Pattern.Stuck`: A word boundary before an opening brace behind which there is nothing.

## Theorems

* `Pattern.AgreesBut.bind`: One reader after the other, if both agree.
* `Pattern.AgreesBut.filterMap`, `Pattern.AgreesBut.map`: Turning what was read into something else.
* `Pattern.AgreesBut.behind`: Reading on behind blanks.
* `Pattern.count_agrees`, `Pattern.count_tail`: Counts agree, and the tail is none.
* `Pattern.escape_agrees`: Escapes agree unless they get stuck.
* `Pattern.bracketed_agrees`: Sets agree.
-/

namespace RunReport

namespace Pattern

/-- What closes the pattern around an expression, or nothing. -/
def IsTail (w : List Char) : Prop :=
  w = [] ∨ w = [')', '$']

/-- A text with a tail behind it. A comment may have swallowed the tail, and then nothing is left of
    either. -/
def Grows (w cs ds : List Char) : Prop :=
  ds = cs ++ w ∨ (cs = [] ∧ ds = [])

/-- What is read of a text, and of the text with a tail behind it: the same, apart from results that
    look at where the text ends. -/
structure AgreesBut {α : Type} (w : List Char) (P : α → List Char → Prop) (a b : Read α) :
    Prop where
  kept : ∀ x r, b = some (x, r ++ w) → a = some (x, r) ∨ P x r
  grown : ∀ x r, a = some (x, r) → ∃ r', b = some (x, r') ∧ Grows w r r'

/-- The same is read of a text and of the text with a tail behind it. -/
abbrev Agrees {α : Type} (w : List Char) (a b : Read α) : Prop :=
  AgreesBut w (fun _ _ => False) a b

/-- A reader leaves the end of its text. -/
def Leaves {α : Type} (read : List Char → Read α) : Prop :=
  ∀ cs r x, read cs = some (x, r) → r <:+ cs

section

variable {α β : Type} {w : List Char} {P : α → List Char → Prop} {Q : β → List Char → Prop}

/-! ### Putting readers together -/

theorem Grows.refl (w cs : List Char) : Grows w cs (cs ++ w) :=
  .inl rfl

theorem not_rest_append (r w : List Char) : ¬ Rest (r ++ w) w := by
  intro h
  have hlt := h.2
  rw [List.length_append] at hlt
  omega

/-- What is read of the tail alone is never left with the tail. -/
theorem AgreesBut.of_rest {b : Read α} (h : ∀ r x, b = some (x, r) → Rest r w) :
    AgreesBut w P none b where
  kept x r hb := (not_rest_append r w (h _ x hb)).elim
  grown x r ha := by simp at ha

theorem AgreesBut.nothing : AgreesBut w P none none :=
  .of_rest fun r x h => by simp at h

theorem AgreesBut.found (x : α) {cs ds : List Char} (h : Grows w cs ds) :
    AgreesBut w P (some (x, cs)) (some (x, ds)) where
  kept y r hb := by
    rw [Option.some.injEq, Prod.mk.injEq] at hb
    rcases h with hgrown | ⟨hcs, hds⟩
    · rw [hgrown, List.append_left_inj] at hb
      exact .inl (by rw [hb.1, hb.2])
    · rw [hds, List.nil_eq_append_iff] at hb
      exact .inl (by rw [hb.1, hb.2.1, hcs])
  grown y r ha := by
    rw [Option.some.injEq, Prod.mk.injEq] at ha
    rw [← ha.1, ← ha.2]
    exact ⟨ds, rfl, h⟩

/-- Readings that agree everywhere agree apart from anything. -/
theorem AgreesBut.weaken {a b : Read α} (h : Agrees w a b) : AgreesBut w P a b where
  kept x r hb := (h.kept x r hb).imp_right False.elim
  grown := h.grown

/-- Reading on from texts that agree. -/
theorem AgreesBut.of_grows {cs ds : List Char} {k l : List Char → Read β} (h : Grows w cs ds)
    (hl : Leaves l) (hend : k [] = l []) (hk : AgreesBut w Q (k cs) (l (cs ++ w))) :
    AgreesBut w Q (k cs) (l ds) := by
  rcases h with rfl | ⟨rfl, rfl⟩
  · exact hk
  · rw [hend]
    have hnil : ∀ y r, l [] = some (y, r) → r = [] := fun y r hr =>
      List.suffix_nil.mp (hl [] r y hr)
    constructor
    · intro y r hb
      have hr := List.append_eq_nil_iff.mp (hnil y _ hb)
      rw [hr.2, List.append_nil] at hb
      exact .inl hb
    · intro y r ha
      exact ⟨r, ha, .inr ⟨hnil y r ha, hnil y r ha⟩⟩

/-- One reader after the other. -/
theorem AgreesBut.bind {a b : Read α} {k l : α → List Char → Read β} (h : AgreesBut w P a b)
    (hl : ∀ x, Leaves (l x)) (hend : ∀ x, a = some (x, []) → k x [] = l x [])
    (hk : ∀ x r, a = some (x, r) → AgreesBut w Q (k x r) (l x (r ++ w)))
    (hP : ∀ x r y r', P x r → l x (r ++ w) = some (y, r' ++ w) → Q y r') :
    AgreesBut w Q (a.bind fun m => k m.1 m.2) (b.bind fun m => l m.1 m.2) where
  kept y r' hb := by
    rcases Option.bind_eq_some_iff.mp hb with ⟨⟨x, rest⟩, hb, hread⟩
    -- What is left with the tail at the end was left with it in between.
    rcases hl x rest _ y hread with ⟨t, ht⟩
    rw [← List.append_assoc] at ht
    simp only [← ht] at hb hread
    rcases h.kept x _ hb with ha | hx
    · rcases (hk x _ ha).kept y r' hread with hy | hy
      · exact .inl (by rw [ha]; exact hy)
      · exact .inr hy
    · exact .inr (hP x _ y r' hx hread)
  grown y r' ha := by
    rcases Option.bind_eq_some_iff.mp ha with ⟨⟨x, r⟩, ha, hread⟩
    rcases h.grown x r ha with ⟨rest, hb, hrest⟩
    have hagree : AgreesBut w Q (k x r) (l x rest) := by
      rcases hrest with rfl | ⟨rfl, rfl⟩
      · exact hk x r ha
      · exact .of_grows (.inr ⟨rfl, rfl⟩) (hl x) (hend x ha) (hk x [] ha)
    rw [hb]
    exact hagree.grown y r' hread

/-- What was read turned into something else, or refused. -/
theorem AgreesBut.filterMap {a b : Read α} (h : AgreesBut w P a b) (g : α → Option β)
    (hP : ∀ x r y, P x r → g x = some y → Q y r) :
    AgreesBut w Q (a.bind fun m => (g m.1).map (·, m.2))
      (b.bind fun m => (g m.1).map (·, m.2)) := by
  have hvalue : ∀ x (r : List Char) y r', (g x).map (·, r) = some (y, r') →
      g x = some y ∧ r = r' := by
    intro x r y r' h
    simp only [Option.map_eq_some_iff, Prod.mk.injEq] at h
    rcases h with ⟨z, hz, rfl, rfl⟩
    exact ⟨hz, rfl⟩
  -- What is made of the value takes no more of the text.
  refine h.bind (k := fun x r => (g x).map (·, r)) (l := fun x r => (g x).map (·, r)) ?_
    (fun _ _ => rfl) ?_ ?_
  · intro x cs r y hy
    exact (hvalue x cs y r hy).2 ▸ List.suffix_refl _
  · intro x r _
    cases g x with
    | none => exact .nothing
    | some y => exact .found y (Grows.refl w r)
  · intro x r y r' hx hy
    have hg := hvalue x _ y _ hy
    rw [← (List.append_left_inj w).mp hg.2]
    exact hP x r y hx hg.1

theorem AgreesBut.map {a b : Read α} (h : AgreesBut w P a b) (g : α → β)
    (hP : ∀ x r, P x r → Q (g x) r) :
    AgreesBut w Q (a.map fun m => (g m.1, m.2)) (b.map fun m => (g m.1, m.2)) := by
  have hfilter := h.filterMap (fun x => some (g x)) (Q := Q) fun x r y hx hy =>
    Option.some.inj hy ▸ hP x r hx
  cases a <;> cases b <;> exact hfilter

end

section

variable {w : List Char}

/-! ### Blanks -/

theorem skip_nil (f : Flags) : skip f [] = [] :=
  List.suffix_nil.mp (skip_suffix f [])

theorem afterBlanks_grows (hw : IsTail w) (inComment : Bool) (cs : List Char) :
    Grows w (afterBlanks inComment cs) (afterBlanks inComment (cs ++ w)) := by
  induction cs generalizing inComment with
  | nil =>
      rcases hw with rfl | rfl
      · exact Grows.refl [] _
      · -- Nothing in the tail ends a comment.
        cases inComment with
        | false => exact Grows.refl _ _
        | true => exact .inr ⟨rfl, rfl⟩
  | cons c cs ih =>
      rw [List.cons_append, afterBlanks, afterBlanks]
      split
      · exact ih _
      split
      · exact ih _
      split
      · exact ih _
      · exact Grows.refl w (c :: cs)

theorem skip_grows (hw : IsTail w) (f : Flags) (cs : List Char) :
    Grows w (skip f cs) (skip f (cs ++ w)) := by
  unfold skip
  split
  · exact afterBlanks_grows hw false cs
  · exact Grows.refl w cs

theorem Grows.skip {cs ds : List Char} (h : Grows w cs ds) (hw : IsTail w) (f : Flags) :
    Grows w (skip f cs) (skip f ds) := by
  rcases h with rfl | ⟨rfl, rfl⟩
  · exact skip_grows hw f cs
  · exact .inr ⟨skip_nil f, skip_nil f⟩

/-- Reading on behind blanks. -/
theorem AgreesBut.behind {α : Type} {P : α → List Char → Prop} {k l : List Char → Read α}
    (hw : IsTail w) (f : Flags) (cs : List Char) (hl : Leaves l) (hend : k [] = l [])
    (hk : AgreesBut w P (k (skip f cs)) (l (skip f cs ++ w))) :
    AgreesBut w P (k (skip f cs)) (l (skip f (cs ++ w))) :=
  .of_grows (skip_grows hw f cs) hl hend hk

theorem trimStart_tail (hw : IsTail w) (cs : List Char) :
    Text.trimStart (cs ++ w) = Text.trimStart cs ++ w := by
  have hend : Text.trimStart w = w := by
    rcases hw with rfl | rfl
    · rfl
    · rfl
  unfold Text.trimStart at hend ⊢
  rw [List.dropWhile_append]
  split
  · next hnil => rw [hend, List.isEmpty_iff.mp hnil, List.nil_append]
  · rfl

theorem Grows.trimStart {cs ds : List Char} (h : Grows w cs ds) (hw : IsTail w) :
    Grows w (Text.trimStart cs) (Text.trimStart ds) := by
  rcases h with rfl | ⟨rfl, rfl⟩
  · exact .inl (trimStart_tail hw cs)
  · exact .inr ⟨rfl, rfl⟩

theorem Grows.afterLazy {cs ds : List Char} (h : Grows w cs ds) (hw : IsTail w) :
    Grows w (afterLazy cs) (afterLazy ds) := by
  rcases h with rfl | ⟨rfl, rfl⟩
  · left
    cases cs with
    | nil => rcases hw with rfl | rfl <;> rfl
    | cons c cs =>
        by_cases hc : c = '?'
        · rw [hc]
          rfl
        · simp [Pattern.afterLazy, hc]
  · exact .inr ⟨rfl, rfl⟩

/-- What was read, and the text behind blanks. -/
theorem AgreesBut.skipped {α : Type} {a b : Read α} (h : Agrees w a b) (hw : IsTail w) (f : Flags) :
    Agrees w (a.map fun m => (m.1, skip f m.2)) (b.map fun m => (m.1, skip f m.2)) := by
  have hbind := h.bind (Q := fun _ _ => False) (k := fun x r => some (x, skip f r))
    (l := fun x r => some (x, skip f r)) ?_ (fun _ _ => rfl)
    (fun x r _ => .found x (skip_grows hw f r)) (fun _ _ _ _ h _ => h)
  · cases a <;> cases b <;> exact hbind
  · intro x cs r y hy
    exact eq_of_found hy ▸ skip_suffix f cs

/-! ### Numbers -/

theorem fixedHex_agrees (hw : IsTail w) (f : Flags) (n value : Nat) (cs : List Char) :
    Agrees w (fixedHex f n value cs) (fixedHex f n value (cs ++ w)) := by
  induction n generalizing value cs with
  | zero =>
      rw [fixedHex, fixedHex]
      cases charOf? value with
      | none => exact .nothing
      | some c => exact .found c (Grows.refl w cs)
  | succ n ih =>
      cases cs with
      | nil => exact .of_rest (fixedHex_rest f n value w)
      | cons c cs =>
          rw [List.cons_append, fixedHex, fixedHex]
          cases Numeral.digitIn? 16 c with
          | none => exact .nothing
          | some d => exact .behind hw f cs (fixedHex_suffix f n _) rfl (ih _ _)

theorem braced_agrees (hw : IsTail w) (f : Flags) (n m : Nat) (cs : List Char)
    (hn : cs.length < n) (hm : (cs ++ w).length < m) :
    Agrees w (braced f n cs) (braced f m (cs ++ w)) := by
  induction n generalizing m cs with
  | zero => exact absurd hn (Nat.not_lt_zero _)
  | succ n ih =>
      cases m with
      | zero => exact absurd hm (Nat.not_lt_zero _)
      | succ m =>
          have hlen := (skip_suffix f cs).length_le
          rw [braced_succ, braced_succ]
          rcases skip_grows hw f cs with hskip | ⟨hcs, hds⟩
          · rw [hskip]
            generalize skip f cs = ds at hlen
            cases ds with
            -- Only the tail is left to read, and what is read of a tail is a part of it.
            | nil => exact .of_rest (bracedStep_rest f m (braced_rest f m) w)
            | cons c ds =>
                rw [List.cons_append, bracedStep, bracedStep]
                rw [List.length_cons] at hlen
                rw [List.length_append] at hm
                split
                · exact .found [] (Grows.refl w ds)
                · exact (ih m ds (by omega) (by rw [List.length_append]; omega)).map (c :: ·)
                    fun _ _ h => h
          · rw [hcs, hds]
            exact .nothing

theorem bracedHex_agrees (hw : IsTail w) (f : Flags) (cs : List Char) :
    Agrees w (bracedHex f cs) (bracedHex f (cs ++ w)) := by
  rw [bracedHex_eq, bracedHex_eq]
  have hread := braced_agrees hw f (cs.length + 1) ((cs ++ w).length + 1) cs
    (Nat.lt_succ_self _) (Nat.lt_succ_self _)
  exact (hread.filterMap (fun digits => (Numeral.valueIn? 16 digits).bind charOf?)
    fun _ _ _ h _ => h).skipped hw f

/-- A run of characters, none of which is a parenthesis, ends before the tail. -/
theorem run_grows (hw : IsTail w) (kind : Char → Bool) (hkind : kind ')' = false) (f : Flags)
    (n m : Nat) (cs : List Char) (hn : cs.length < n) (hm : (cs ++ w).length < m) :
    (run kind f m (cs ++ w)).1 = (run kind f n cs).1 ∧
      Grows w (run kind f n cs).2 (run kind f m (cs ++ w)).2 := by
  induction n generalizing m cs with
  | zero => exact absurd hn (Nat.not_lt_zero _)
  | succ n ih =>
      cases m with
      | zero => exact absurd hm (Nat.not_lt_zero _)
      | succ m =>
          cases cs with
          | nil =>
              rcases hw with rfl | rfl
              · exact ⟨rfl, .inl rfl⟩
              · -- The run ends at the parenthesis of the tail, because that is not of its kind.
                rw [List.nil_append, run, hkind]
                exact ⟨rfl, .inl rfl⟩
          | cons c cs =>
              rw [List.cons_append, run, run]
              split
              · have hlen := (skip_suffix f cs).length_le
                rw [List.length_cons] at hn
                rw [List.length_append, List.length_cons] at hm
                rcases skip_grows hw f cs with hskip | ⟨hcs, hds⟩
                · rw [hskip]
                  have hrun := ih m (skip f cs) (by omega) (by rw [List.length_append]; omega)
                  exact ⟨congrArg (c :: ·) hrun.1, hrun.2⟩
                · rw [hcs, hds, run_nil, run_nil]
                  exact ⟨rfl, .inr ⟨rfl, rfl⟩⟩
              · exact ⟨rfl, Grows.refl w (c :: cs)⟩

theorem count_agrees (hw : IsTail w) (f : Flags) (cs : List Char) :
    Agrees w (count f cs) (count f (cs ++ w)) := by
  rw [count_eq, count_eq, trimStart_tail hw]
  have hrun := run_grows hw Char.isDigit rfl f ((Text.trimStart cs).length + 1)
    ((Text.trimStart cs ++ w).length + 1) (Text.trimStart cs) (Nat.lt_succ_self _)
    (Nat.lt_succ_self _)
  rw [hrun.1]
  cases (Numeral.valueOf? _).filter (· < Nat.pow 2 32) with
  | none => exact .nothing
  | some n => exact .found n ((hrun.2.trimStart hw).skip hw f)

/-- There is no count where nothing but the tail is left. -/
theorem count_tail (hw : IsTail w) (f : Flags) : count f w = none := by
  have hrun : (run Char.isDigit f ((Text.trimStart w).length + 1) (Text.trimStart w)).1 = [] := by
    rcases hw with rfl | rfl
    · rfl
    · rfl
  rw [count_eq, hrun]
  rfl

/-! ### Escapes -/

section Properties

variable [UnicodeNames]

theorem propertyAt_agrees (hw : IsTail w) (f : Flags) (negated : Bool) (cs : List Char) :
    Agrees w (propertyAt f negated cs) (propertyAt f negated (cs ++ w)) := by
  cases cs with
  | nil => exact .of_rest (propertyAt_rest f negated w)
  | cons c cs =>
      rw [List.cons_append, propertyAt, propertyAt]
      split
      · exact (braced_agrees hw f _ _ cs (Nat.lt_succ_self _) (Nat.lt_succ_self _)).filterMap
          (fun name => (propertySet? name).bind (propertyOf? f negated)) fun _ _ _ h _ => h
      split
      · exact .nothing
      · cases (UnicodeNames.named? [c]).bind fun s => propertyOf? f negated (s, false) with
        | none => exact .nothing
        | some s => exact .found s (skip_grows hw f cs)

theorem propertyEscape_agrees (hw : IsTail w) (f : Flags) (negated : Bool) (cs : List Char) :
    Agrees w (propertyEscape f negated cs) (propertyEscape f negated (cs ++ w)) := by
  rw [propertyEscape_eq, propertyEscape_eq]
  exact .behind hw f cs (fun cs r x h => (propertyAt_rest f negated cs r x h).1) rfl
    (propertyAt_agrees hw f negated _)

end Properties

theorem hexAt_agrees (hw : IsTail w) (f : Flags) (digits : Nat) (cs : List Char) :
    Agrees w (hexAt f (digits + 1) cs) (hexAt f (digits + 1) (cs ++ w)) := by
  cases cs with
  | nil => exact .of_rest (hexAt_rest f digits w)
  | cons c cs =>
      rw [List.cons_append, hexAt, hexAt]
      split
      · exact (bracedHex_agrees hw f cs).map (fun c => Escaped.literal c false) fun _ _ h => h
      · exact (fixedHex_agrees hw f (digits + 1) 0 (c :: cs)).map
          (fun c => Escaped.literal c (digits + 1 == 2)) fun _ _ h => h

theorem hexEscape_agrees (hw : IsTail w) (f : Flags) (digits : Nat) (cs : List Char) :
    Agrees w (hexEscape f (digits + 1) cs) (hexEscape f (digits + 1) (cs ++ w)) := by
  rw [hexEscape_eq, hexEscape_eq]
  exact .behind hw f cs (fun cs r x h => (hexAt_rest f digits cs r x h).1) rfl
    (hexAt_agrees hw f digits _)

/-- A word boundary before an opening brace behind which there is nothing. Here the tail matters:
    the brace could start a name, and only what follows it tells that it does not. -/
def Stuck (f : Flags) (e : Escaped) (r : List Char) : Prop :=
  (∃ a, e = .assertion a) ∧ ∃ more, r = '\x7b' :: more ∧ skip f more = []

theorem boundaryNamed_agrees (hw : IsTail w) (f : Flags) (cs : List Char) :
    Agrees w (boundaryNamed f cs) (boundaryNamed f (cs ++ w)) := by
  have hrun := run_grows hw isBoundaryChar rfl f (cs.length + 1) ((cs ++ w).length + 1) cs
    (Nat.lt_succ_self _) (Nat.lt_succ_self _)
  unfold boundaryNamed
  rw [hrun.1]
  refine .of_grows hrun.2 (fun cs r x h => (afterName_rest f _ cs r x h).1) rfl ?_
  generalize (run isBoundaryChar f (cs.length + 1) cs).2 = rest
  cases rest with
  | nil => exact .of_rest (afterName_rest f _ w)
  | cons c rest =>
      rw [List.cons_append, afterName, afterName]
      split
      · cases namedBoundary? (!f.unicode) _ with
        | none => exact .nothing
        | some a => exact .found _ (Grows.refl w rest)
      · exact .nothing

theorem boundaryEscape_agrees (hw : IsTail w) (f : Flags) (cs : List Char) :
    AgreesBut w (Stuck f) (boundaryEscape f cs) (boundaryEscape f (cs ++ w)) := by
  by_cases hbrace : ∃ rest, cs = '\x7b' :: rest
  · rcases hbrace with ⟨rest, rfl⟩
    rw [List.cons_append, boundaryEscape_brace, boundaryEscape_brace]
    rcases skip_grows hw f rest with hskip | ⟨hcs, hds⟩
    · rw [hskip]
      cases hrest : skip f rest with
      | nil =>
          rcases hw with rfl | rfl
          · exact .nothing
          · constructor
            · intro x r hx
              rw [List.nil_append, boundaryAt, if_neg (by decide), Option.some.injEq,
                Prod.mk.injEq] at hx
              rw [← List.cons_append, List.append_left_inj] at hx
              exact .inr ⟨⟨_, hx.1.symm⟩, rest, hx.2.symm, hrest⟩
            · intro x r hx
              exact absurd hx (by simp [boundaryAt])
      | cons c more =>
          rw [List.cons_append, boundaryAt, boundaryAt]
          split
          · exact (boundaryNamed_agrees hw f (c :: more)).weaken
          · exact .found _ (Grows.refl w ('\x7b' :: rest))
    · rw [hcs, hds]
      exact .nothing
  · -- The tail begins with no brace, so it makes none where there was none.
    have hgrown : ∀ rest, cs ++ w ≠ '\x7b' :: rest := by
      intro rest h
      cases cs with
      | nil =>
          rcases hw with rfl | rfl
          · exact absurd h (by simp)
          · exact absurd h (by simp)
      | cons c cs => exact hbrace ⟨cs, by rw [(List.cons.inj h).1]⟩
    rw [boundaryEscape_of_ne f cs fun rest h => hbrace ⟨rest, h⟩,
      boundaryEscape_of_ne f (cs ++ w) hgrown]
    exact .found _ (Grows.refl w cs)

section Escapes

variable [UnicodeNames]

theorem escape_agrees (hw : IsTail w) (f : Flags) (cs : List Char) :
    AgreesBut w (Stuck f) (escape f cs) (escape f (cs ++ w)) := by
  cases cs with
  | nil => exact .of_rest (escape_rest f w)
  | cons c cs =>
      rw [List.cons_append]
      rcases escape_cases f c with ⟨digits, hc⟩ | ⟨negated, hc⟩ | hc | ⟨e, hc⟩
      · rw [hc, hc]
        exact (hexEscape_agrees hw f digits cs).weaken
      · rw [hc, hc]
        exact (propertyEscape_agrees hw f negated cs).map Escaped.set fun _ _ h => h.elim
      · rw [hc, hc]
        exact boundaryEscape_agrees hw f cs
      · rw [hc, hc]
        cases e with
        | none => exact .nothing
        | some e => exact .found e (Grows.refl w cs)

/-! ### Sets in brackets -/

theorem setItem_agrees (hw : IsTail w) (f : Flags) (cs : List Char) :
    AgreesBut w (Stuck f) (setItem f cs) (setItem f (cs ++ w)) := by
  cases cs with
  | nil => exact .of_rest (setItem_rest f w)
  | cons c cs =>
      by_cases hc : c = '\\'
      · rw [hc]
        exact escape_agrees hw f cs
      · simp only [List.cons_append, setItem]
        exact .found _ (Grows.refl w cs)

omit [UnicodeNames] in
theorem between?_assertion (f : Flags) (first : Escaped) (a : Assertion) :
    between? f first (.assertion a) = none := by
  unfold between?
  cases memberChar? f first <;> rfl

omit [UnicodeNames] in
theorem alone_agrees (f : Flags) (first : Escaped) (cs : List Char) :
    Agrees w (alone f first cs) (alone f first (cs ++ w)) := by
  unfold alone
  cases memberSet? f first with
  | none => exact .nothing
  | some s => exact .found _ (Grows.refl w cs)

theorem afterHyphen_agrees (hw : IsTail w) (f : Flags) (first : Escaped) (more : List Char) :
    Agrees w (afterHyphen f first more (skip f more))
      (afterHyphen f first (more ++ w) (skip f (more ++ w))) := by
  rcases skip_grows hw f more with hskip | ⟨hcs, hds⟩
  · rw [hskip]
    cases skip f more with
    | nil =>
        refine .of_rest fun r x h => ?_
        rcases hw with rfl | rfl
        · exact absurd h (by simp [afterHyphen, setItem])
        · rw [List.nil_append, afterHyphen, if_neg (by decide)] at h
          rcases Option.bind_eq_some_iff.mp h with ⟨⟨last, rest⟩, hlast, h⟩
          exact eq_of_mapped h ▸ setItem_rest f _ rest last hlast
    | cons c next =>
        rw [List.cons_append, afterHyphen, afterHyphen, List.head?_cons, List.head?_cons]
        by_cases hend : some c = some ']' ∨ some c = some '-'
        · rw [if_pos hend, if_pos hend]
          exact alone_agrees f first ('-' :: more)
        · rw [if_neg hend, if_neg hend]
          -- No assertion is an end of an interval, so it does not matter what stands behind one.
          refine (setItem_agrees hw f (c :: next)).filterMap (between? f first) ?_
          rintro x r y ⟨⟨a, rfl⟩, -⟩ h
          rw [between?_assertion] at h
          exact absurd h (by simp)
  · rw [hcs, hds]
    simp only [afterHyphen, setItem]
    exact .nothing

/-- A member of a set may reach up to the tail, but a set cannot end there. -/
theorem afterItem_agrees (hw : IsTail w) (f : Flags) (first : Escaped) (cs : List Char) :
    AgreesBut w (fun _ r => r = []) (afterItem f first cs) (afterItem f first (cs ++ w)) := by
  cases cs with
  | nil =>
      constructor
      · intro x r h
        have hlen := (afterItem_suffix f first w _ x h).length_le
        rw [List.length_append] at hlen
        exact .inr (List.length_eq_zero_iff.mp (by omega))
      · intro x r h
        exact absurd h (by simp [afterItem])
  | cons c more =>
      rw [List.cons_append, afterItem, afterItem]
      split
      · exact (afterHyphen_agrees hw f first more).weaken
      · exact (alone_agrees f first (c :: more)).weaken

theorem afterItem_assertion (f : Flags) (a : Assertion) (cs : List Char) :
    afterItem f (.assertion a) cs = none := by
  cases cs with
  | nil => rfl
  | cons c more =>
      rw [afterItem, afterHyphen]
      split
      · split
        · rfl
        · cases setItem f (skip f more) <;> rfl
      · rfl

theorem member_agrees (hw : IsTail w) (f : Flags) (cs : List Char) :
    AgreesBut w (fun _ r => r = []) (member f cs) (member f (cs ++ w)) := by
  rw [member_eq, member_eq]
  refine (setItem_agrees hw f cs).bind (k := fun first rest => afterItem f first (skip f rest))
    (l := fun first rest => afterItem f first (skip f rest)) ?_ (fun _ _ => rfl) ?_ ?_
  · intro first cs r x h
    exact (afterItem_suffix f first _ r x h).trans (skip_suffix f cs)
  · intro first rest _
    exact .behind hw f rest (afterItem_suffix f first) rfl (afterItem_agrees hw f first _)
  · rintro first rest x r ⟨⟨a, rfl⟩, -⟩ h
    rw [afterItem_assertion] at h
    exact absurd h (by simp)

end Escapes

theorem afterCaret_grows (hw : IsTail w) (next : List Char → List Char)
    (hnext : ∀ cs, Grows w (next cs) (next (cs ++ w))) (cs : List Char) :
    (afterCaret next (cs ++ w)).1 = (afterCaret next cs).1 ∧
      Grows w (afterCaret next cs).2 (afterCaret next (cs ++ w)).2 := by
  cases cs with
  | nil =>
      rcases hw with rfl | rfl
      · exact ⟨rfl, .inl rfl⟩
      · exact ⟨rfl, .inl rfl⟩
  | cons c cs =>
      by_cases hc : c = '^'
      · rw [hc]
        exact ⟨rfl, hnext cs⟩
      · rw [List.cons_append, afterCaret_of_ne next c cs hc, afterCaret_of_ne next c _ hc]
        exact ⟨rfl, Grows.refl w (c :: cs)⟩

/-- What stands before a character that is not in the tail is the same with the tail. -/
theorem dropWhile_tail (kind : Char → Bool) (hkind : w.dropWhile kind = []) (cs : List Char) :
    (cs.dropWhile kind = [] ∧ (cs ++ w).dropWhile kind = []) ∨
    ((cs ++ w).dropWhile kind = cs.dropWhile kind ++ w ∧
      (cs ++ w).takeWhile kind = cs.takeWhile kind) := by
  induction cs with
  | nil => exact .inl ⟨rfl, by rw [List.nil_append, hkind]⟩
  | cons c cs ih =>
      rw [List.cons_append, List.dropWhile_cons, List.dropWhile_cons, List.takeWhile_cons,
        List.takeWhile_cons]
      split
      · exact ih.imp_right fun h => ⟨h.1, congrArg (c :: ·) h.2⟩
      · exact .inr ⟨rfl, rfl⟩

theorem dropWhile_colon (hw : IsTail w) : (w.dropWhile fun c => decide (c ≠ ':')) = [] := by
  rcases hw with rfl | rfl
  · rfl
  · rfl

theorem afterColon?_tail (hw : IsTail w) (cs : List Char) :
    afterColon? (cs ++ w) = (afterColon? cs).map (· ++ w) := by
  rcases cs with _ | ⟨c, _ | ⟨d, rest⟩⟩
  · rcases hw with rfl | rfl
    · rfl
    · rfl
  · rcases hw with rfl | rfl
    · rfl
    · simp [afterColon?]
  · simp only [List.cons_append, afterColon?]
    split <;> rfl

theorem classBody_tail (hw : IsTail w) (f : Flags) (negated : Bool) (cs : List Char) :
    classBody f negated (cs ++ w) = (classBody f negated cs).map fun m => (m.1, m.2 ++ w) := by
  unfold classBody
  rcases dropWhile_tail _ (dropWhile_colon hw) cs with ⟨hcs, hds⟩ | ⟨hdrop, htake⟩
  · rw [hcs, hds]
    rfl
  · rw [hdrop, htake, afterColon?_tail hw]
    cases afterColon? (cs.dropWhile fun c => decide (c ≠ ':')) with
    | none => rfl
    | some rest =>
        cases CharSet.asciiClass? (String.ofList (cs.takeWhile fun c => decide (c ≠ ':'))) <;> rfl

/-- A class in a set is complete before the tail or there is none. -/
theorem asciiClass_tail (hw : IsTail w) (f : Flags) (cs : List Char) :
    asciiClass f (cs ++ w) = (asciiClass f cs).map fun m => (m.1, m.2 ++ w) := by
  cases cs with
  | nil =>
      rcases hw with rfl | rfl
      · rfl
      · rfl
  | cons c cs =>
      by_cases hc : c = ':'
      · rw [hc, List.cons_append, asciiClass_cons, asciiClass_cons]
        have hcaret := afterCaret_grows hw id (Grows.refl w) cs
        rcases hcaret with ⟨hnegated, hrest | ⟨hcs, hds⟩⟩
        · rw [hnegated, hrest, classBody_tail hw]
        · rw [hnegated, hcs, hds]
          rfl
      · simp [asciiClass, hc]

theorem operator?_tail (hw : IsTail w) (c : Char) (cs : List Char) :
    operator? (c :: cs ++ w) = (operator? (c :: cs)).map fun m => (m.1, m.2 ++ w) := by
  cases cs with
  | nil =>
      rcases hw with rfl | rfl
      · rfl
      · rw [List.cons_append, List.nil_append, operator?]
        split
        · next hc =>
            rw [← hc]
            rfl
        · rfl
  | cons d cs =>
      simp only [List.cons_append, operator?]
      split
      · cases doubled? c <;> rfl
      · rfl

theorem firstMembers_grows (hw : IsTail w) (f : Flags) (cs : List Char) :
    (firstMembers f (cs ++ w)).1 = (firstMembers f cs).1 ∧
      Grows w (firstMembers f cs).2 (firstMembers f (cs ++ w)).2 := by
  have hrun := run_grows hw (fun c => decide (c = '-')) rfl f (cs.length + 1) ((cs ++ w).length + 1)
    cs (Nat.lt_succ_self _) (Nat.lt_succ_self _)
  unfold firstMembers
  generalize run (fun c => decide (c = '-')) f (cs.length + 1) cs = short at hrun
  generalize run (fun c => decide (c = '-')) f ((cs ++ w).length + 1) (cs ++ w) = long at hrun
  rcases short with ⟨hyphens, rest⟩
  rcases long with ⟨hyphens', rest'⟩
  dsimp only at hrun ⊢
  rcases hrun with ⟨rfl, rfl | ⟨rfl, rfl⟩⟩
  · cases rest with
    | nil =>
        -- A bracket that closes is a member if it is the first one, and the tail begins with none.
        have hend : ¬ (hyphens' = [] ∧ ([] ++ w).head? = some ']') := by
          rcases hw with rfl | rfl
          · simp
          · simp
        rw [if_neg hend, if_neg (by simp)]
        exact ⟨rfl, .inl rfl⟩
    | cons c rest =>
        rw [List.cons_append, List.head?_cons, List.head?_cons]
        split
        · exact ⟨rfl, skip_grows hw f rest⟩
        · exact ⟨rfl, Grows.refl w (c :: rest)⟩
  · exact ⟨rfl, .inr ⟨by simp, by simp⟩⟩

theorem setStart_grows (hw : IsTail w) (f : Flags) (cs : List Char) :
    (setStart f (cs ++ w)).1 = (setStart f cs).1 ∧
      (setStart f (cs ++ w)).2.1 = (setStart f cs).2.1 ∧
      Grows w (setStart f cs).2.2 (setStart f (cs ++ w)).2.2 := by
  rw [setStart_eq, setStart_eq]
  rcases skip_grows hw f cs with hskip | ⟨hcs, hds⟩
  · rw [hskip]
    generalize skip f cs = ds
    rcases afterCaret_grows hw (skip f) (skip_grows hw f) ds with ⟨hnegated, hrest | ⟨hcs, hds⟩⟩
    · rw [hnegated, hrest]
      exact ⟨rfl, firstMembers_grows hw f _⟩
    · rw [hnegated, hcs, hds]
      exact ⟨rfl, rfl, .inr ⟨rfl, rfl⟩⟩
  · rw [hcs, hds]
    exact ⟨rfl, rfl, .inr ⟨rfl, rfl⟩⟩

section Bodies

variable [UnicodeNames]

theorem setBody_leaves (f : Flags) (n : Nat) (negated : Bool) (left : Option (SetOp × SetTerm))
    (members : List SetTerm) : Leaves (setBody f n negated left members) :=
  fun cs r x h => (setBody_rest f n negated left members cs r x h).1

theorem setBody_end (f : Flags) (n m : Nat) (negated : Bool) (left : Option (SetOp × SetTerm))
    (members : List SetTerm) :
    setBody f n negated left members [] = setBody f m negated left members [] := by
  rw [setBody_nil, setBody_nil]

theorem otherStep_agrees (hw : IsTail w) (f : Flags) (n m : Nat) (negated : Bool)
    (left : Option (SetOp × SetTerm)) (members : List SetTerm) (c : Char) (cs : List Char)
    (hread : ∀ left members ds, ds.length ≤ cs.length →
      Agrees w (setBody f n negated left members ds)
        (setBody f m negated left members (ds ++ w))) :
    Agrees w (otherStep f (setBody f n) negated left members (c :: cs))
      (otherStep f (setBody f m) negated left members (c :: cs ++ w)) := by
  rw [otherStep, otherStep, operator?_tail hw]
  cases hop : operator? (c :: cs) with
  | some found => exact hread _ _ found.2 (Nat.le_of_lt_succ (operator?_rest _ _ _ hop).2)
  | none =>
      refine (member_agrees hw f (c :: cs)).bind
        (k := fun m rest => setBody f n negated left (members ++ [m]) rest)
        (l := fun t rest => setBody f m negated left (members ++ [t]) rest)
        (fun _ => setBody_leaves f m _ _ _) (fun _ _ => setBody_end f n m _ _ _) ?_ ?_
      · intro t rest hmember
        exact hread _ _ rest (Nat.le_of_lt_succ (member_rest f _ rest t hmember).2)
      · -- Where nothing but the tail is left, the set is not closed.
        rintro t rest x r rfl h
        exact not_rest_append r w (setBody_rest f m _ _ _ w _ x h)

/-- A set inside of a set, and the rest of the set around it. -/
theorem inner_agrees (hw : IsTail w) (f : Flags) (n m : Nat) (negated : Bool)
    (left : Option (SetOp × SetTerm)) (members : List SetTerm) (cs : List Char)
    (hread : ∀ negated left members ds, ds.length ≤ cs.length →
      Agrees w (setBody f n negated left members ds)
        (setBody f m negated left members (ds ++ w))) :
    Agrees w
      ((setBody f n (setStart f cs).1 none (setStart f cs).2.1
          (setStart f cs).2.2).bind fun inner =>
        setBody f n negated left (members ++ [inner.1]) inner.2)
      ((setBody f m (setStart f (cs ++ w)).1 none (setStart f (cs ++ w)).2.1
          (setStart f (cs ++ w)).2.2).bind fun inner =>
        setBody f m negated left (members ++ [inner.1]) inner.2) := by
  have hstart := setStart_grows hw f cs
  have hle := (setStart_suffix f cs).length_le
  rw [hstart.1, hstart.2.1]
  -- The inner set is read first, and then the outer one goes on behind it.
  have hinner := AgreesBut.of_grows hstart.2.2 (setBody_leaves f m _ none _)
    (setBody_end f n m _ none _) (hread (setStart f cs).1 none (setStart f cs).2.1 _ hle)
  refine hinner.bind
    (k := fun inner rest => setBody f n negated left (members ++ [inner]) rest)
    (l := fun inner rest => setBody f m negated left (members ++ [inner]) rest)
    (fun _ => setBody_leaves f m _ _ _) (fun _ _ => setBody_end f n m _ _ _) ?_
    (fun _ _ _ _ h _ => h)
  intro inner rest hinner
  exact hread _ _ _ rest ((setBody_rest f n _ _ _ _ rest inner hinner).1.length_le.trans hle)

theorem bodyStep_agrees (hw : IsTail w) (f : Flags) (n m : Nat) (negated : Bool)
    (left : Option (SetOp × SetTerm)) (members : List SetTerm) (c : Char) (cs : List Char)
    (hread : ∀ negated left members ds, ds.length ≤ cs.length →
      Agrees w (setBody f n negated left members ds)
        (setBody f m negated left members (ds ++ w))) :
    Agrees w (bodyStep f (setBody f n) negated left members (c :: cs))
      (bodyStep f (setBody f m) negated left members (c :: cs ++ w)) := by
  by_cases hopen : c = '['
  · rw [hopen]
    simp only [List.cons_append, bodyStep, asciiClass_tail hw]
    cases hclass : asciiClass f cs with
    | some found =>
        rcases found with ⟨_ | s, rest⟩
        · exact .nothing
        · exact hread _ _ _ rest (asciiClass_rest f cs rest _ hclass).1.length_le
    | none => exact inner_agrees hw f n m negated left members cs hread
  by_cases hclose : c = ']'
  · rw [hclose]
    simp only [List.cons_append, bodyStep]
    cases negatable f negated (caseless f (pending f left members).set) with
    | none => exact .nothing
    | some s => exact .found _ (Grows.refl w cs)
  · -- What is neither bracket is the same step for both texts, whatever reads on.
    have hother : ∀ read ds, bodyStep f read negated left members (c :: ds)
        = otherStep f read negated left members (c :: ds) := fun read ds =>
      bodyStep_of_other f read negated left members (c :: ds) (by simp) (by simp [hopen])
        (by simp [hclose])
    rw [List.cons_append, hother, hother, ← List.cons_append]
    exact otherStep_agrees hw f n m negated left members c cs (hread negated)

theorem setBody_agrees (hw : IsTail w) (f : Flags) (n m : Nat) (negated : Bool)
    (left : Option (SetOp × SetTerm)) (members : List SetTerm) (cs : List Char)
    (hn : cs.length < n) (hm : (cs ++ w).length < m) :
    Agrees w (setBody f n negated left members cs)
      (setBody f m negated left members (cs ++ w)) := by
  induction n generalizing m negated left members cs with
  | zero => exact absurd hn (Nat.not_lt_zero _)
  | succ n ih =>
      cases m with
      | zero => exact absurd hm (Nat.not_lt_zero _)
      | succ m =>
          have hlen := (skip_suffix f cs).length_le
          rw [setBody_succ, setBody_succ]
          rcases skip_grows hw f cs with hskip | ⟨hcs, hds⟩
          · rw [hskip]
            generalize skip f cs = ds at hlen
            cases ds with
            -- A set that is open at the end can only go on in the tail.
            | nil => exact .of_rest (bodyStep_rest f _ (setBody_rest f m) negated left members w)
            | cons c ds =>
                rw [List.length_cons] at hlen
                rw [List.length_append] at hm
                refine bodyStep_agrees hw f n m negated left members c ds fun _ _ _ r hr => ?_
                exact ih m _ _ _ r (by omega) (by rw [List.length_append]; omega)
          · rw [hcs, hds]
            exact .nothing

theorem bracketed_agrees (hw : IsTail w) (f : Flags) (cs : List Char) :
    Agrees w (bracketed f cs) (bracketed f (cs ++ w)) := by
  have hstart := setStart_grows hw f cs
  have hle := (setStart_suffix f cs).length_le
  unfold bracketed
  simp only
  rw [hstart.1, hstart.2.1]
  refine .of_grows hstart.2.2 (setBody_leaves f _ _ _ _) (setBody_end f _ _ _ _ _)
    (setBody_agrees hw f _ _ _ _ _ _ (Nat.lt_succ_of_le hle) ?_)
  rw [List.length_append, List.length_append]
  exact Nat.lt_succ_of_le (Nat.add_le_add_right hle _)

end Bodies

end

end Pattern

end RunReport
