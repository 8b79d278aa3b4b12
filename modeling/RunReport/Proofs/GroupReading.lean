import RunReport.Proofs.PatternReading

/-!
# Reading Groups Part by Part

A group is read one part at a time, and what is left of it starts with its closing parenthesis.

The reader of groups does three things with a part: it reads on in the same group, it enters another
one, or it ends. `Move` names these three, so that a part can be read without regard to what comes
behind it, and `readGroup_succ` says that reading a group is reading a part and then doing what it
says. All that depends on the character in front is in `partOf`, a table without text.

Only the end of a group leaves anything to its caller, so a group that is read leaves nothing or a
closing parenthesis. That an expression ends before its text does is therefore always due to a
parenthesis that nothing in it opened.

## Main definitions

* `Pattern.Move`: What a part says about reading on.
* `Pattern.Part`, `Pattern.partOf`: What a character starts outside of sets.
* `Pattern.moveAt`: The part that starts with a character.
* `Pattern.readGroup`: A group with the names of groups behind it, and the text after them.
* `Pattern.proceed`: What reading a group comes to after its first part.
* `Pattern.AtClose`: A text with nothing in front of the end of a group.

## Theorems

* `Pattern.opening_eq`, `Pattern.counts_eq`: Starts of groups and counts, reader after reader.
* `Pattern.readGroup_succ`: A group is read part by part.
* `Pattern.move_cases`: A part ends the group, or leaves less than there was.
* `Pattern.readGroup_suffix`: A group leaves nothing, or a text that starts with its closing
  parenthesis.
-/

namespace RunReport

namespace Pattern

/-! ### Groups -/

/-- Whether a group can have a name. -/
def isGroupName : List Char → Bool
  | [] => false
  | first :: others => isNameChar true first && others.all (isNameChar false)

/-- The closing angle behind the name of a group. -/
def afterGroupName (name : List Char) : List Char → Read String
  | [] => none
  | c :: rest => if c = '>' ∧ isGroupName name then some (String.ofList name, rest) else none

theorem groupName_eq (cs : List Char) :
    groupName cs = afterGroupName (cs.takeWhile (· ≠ '>')) (cs.dropWhile (· ≠ '>')) := by
  unfold groupName
  simp only [drop_takeWhile]
  generalize (cs.takeWhile fun c => decide (c ≠ '>')) = name
  rcases cs.dropWhile fun c => decide (c ≠ '>') with _ | ⟨c, rest⟩
  · rfl
  · by_cases hc : c = '>'
    · rw [hc, afterGroupName]
      cases name with
      | nil => rfl
      | cons first others =>
          simp only [isGroupName, true_and]
    · rw [afterGroupName, if_neg fun h => hc h.1]
      split
      · next heq => exact absurd (List.cons.inj heq).1 hc
      · rfl

theorem groupName_suffix (cs r : List Char) (x : String) (h : groupName cs = some (x, r)) :
    r <:+ cs := by
  have hdrop := List.dropWhile_suffix (l := cs) fun c => decide (c ≠ '>')
  rw [groupName_eq] at h
  refine .trans ?_ hdrop
  generalize (cs.dropWhile fun c => decide (c ≠ '>')) = ds at h
  cases ds with
  | nil => exact absurd h (by simp [afterGroupName])
  | cons c rest =>
      rw [afterGroupName] at h
      split at h
      · exact eq_of_found h ▸ List.suffix_cons _ _
      · exact absurd h (by simp)

/-- The flags that are switched, those that were read, and the text after them. -/
def readSwitches (f : Flags) (seen cs : List Char) : Read (Flags × List Char) :=
  (switches f seen cs).map fun m => ((m.1, m.2.1), m.2.2)

theorem readSwitches_cons (f : Flags) (seen : List Char) (c : Char) (cs : List Char) :
    readSwitches f seen (c :: cs)
      = if c = ':' ∨ c = ')' then
          if seen.head? = some '-' then none else some ((f, seen), c :: cs)
        else if seen.contains c then none
        else if c = '-' then readSwitches f (c :: seen) cs
        else (f.switch (!seen.contains '-') c).bind fun f => readSwitches f (c :: seen) cs := by
  unfold readSwitches
  rw [switches]
  split
  · split <;> rfl
  split
  · rfl
  split
  · rfl
  · cases f.switch (!seen.contains '-') c <;> rfl

theorem readSwitches_suffix (f : Flags) (seen cs r : List Char) (x : Flags × List Char)
    (h : readSwitches f seen cs = some (x, r)) : r <:+ cs := by
  induction cs generalizing f seen with
  | nil => exact absurd h (by simp [readSwitches, switches])
  | cons c cs ih =>
      rw [readSwitches_cons] at h
      split at h
      · split at h
        · exact absurd h (by simp)
        · exact eq_of_found h ▸ List.suffix_refl _
      split at h
      · exact absurd h (by simp)
      split at h
      · exact (ih _ _ h).trans (List.suffix_cons c cs)
      · rcases Option.bind_eq_some_iff.mp h with ⟨g, -, h⟩
        exact (ih g _ h).trans (List.suffix_cons c cs)

/-- The start of a group that has a name. -/
def named (f : Flags) (cs : List Char) : Read Opening :=
  (groupName cs).map fun m => (.group f (some m.1), m.2)

/-- What follows the flags of a group: the group, or nothing more. -/
def afterSwitches (g : Flags) (seen : List Char) : List Char → Read Opening
  | [] => none
  | c :: rest =>
    if c = ':' then some (.group g none, rest)
    else if c = ')' then if seen.isEmpty then none else some (.directive g, rest)
    else none

theorem afterSwitches_rest (g : Flags) (seen cs r : List Char) (x : Opening)
    (h : afterSwitches g seen cs = some (x, r)) : Rest r cs := by
  cases cs with
  | nil => exact absurd h (by simp [afterSwitches])
  | cons c cs =>
      rw [afterSwitches] at h
      split at h
      · exact eq_of_found h ▸ .cons (List.suffix_refl cs) c
      split at h
      · split at h
        · exact absurd h (by simp)
        · exact eq_of_found h ▸ .cons (List.suffix_refl cs) c
      · exact absurd h (by simp)

/-- What follows the question mark at the start of a group. -/
def special (f : Flags) : List Char → Read Opening
  | [] => none
  | c :: rest =>
    if c = '=' ∨ c = '!' then none
    else if c = '<' then
      if rest.head? = some '=' ∨ rest.head? = some '!' then none else named f rest
    else if c = 'P' then
      if rest.head? = some '<' then named f rest.tail else none
    else (readSwitches f [] (c :: rest)).bind fun m => afterSwitches m.1.1 m.1.2 m.2

/-- The start of a group behind blanks. -/
def openingAt (f : Flags) : List Char → Read Opening
  | [] => some (.group f none, [])
  | c :: rest => if c = '?' then special f rest else some (.group f none, c :: rest)

theorem readSwitches_bind (f : Flags) (cs : List Char) :
    (readSwitches f [] cs).bind (fun m => afterSwitches m.1.1 m.1.2 m.2)
      = match switches f [] cs with
        | some (g, _, ':' :: rest) => some (.group g none, rest)
        | some (g, seen, ')' :: rest) => if seen.isEmpty then none else some (.directive g, rest)
        | _ => none := by
  unfold readSwitches
  cases switches f [] cs with
  | none => rfl
  | some m =>
      rcases m with ⟨g, seen, _ | ⟨c, more⟩⟩
      · rfl
      · by_cases hcolon : c = ':'
        · rw [hcolon]
          rfl
        by_cases hclose : c = ')'
        · rw [hclose]
          rfl
        · simp [afterSwitches, hcolon, hclose]

theorem opening_eq (f : Flags) (cs : List Char) : opening f cs = openingAt f (skip f cs) := by
  unfold opening
  generalize skip f cs = ds
  split
  · rfl
  · rfl
  · rfl
  · rfl
  · rfl
  · next rest hequals hbang =>
      rw [openingAt, if_pos rfl, special, if_neg (by decide), if_pos rfl, if_neg]
      · rfl
      · rintro (h | h)
        · rcases List.head?_eq_some_iff.mp h with ⟨more, rfl⟩
          exact hequals more rfl
        · rcases List.head?_eq_some_iff.mp h with ⟨more, rfl⟩
          exact hbang more rfl
  · next rest hequals hbang _ _ hnamed hangle =>
      cases rest with
      | nil => rfl
      | cons c rest =>
          have hlook : ¬ (c = '=' ∨ c = '!') := by
            rintro (rfl | rfl)
            · exact hequals rest rfl
            · exact hbang rest rfl
          have hopen : c ≠ '<' := by
            rintro rfl
            exact hangle rest rfl
          refine (readSwitches_bind f (c :: rest)).symm.trans ?_
          rw [openingAt, if_pos rfl, special, if_neg hlook, if_neg hopen]
          split
          · next hp =>
              -- The letter is no flag.
              subst hp
              rw [if_neg]
              · rfl
              · intro h
                rcases List.head?_eq_some_iff.mp h with ⟨more, rfl⟩
                exact hnamed more rfl
          · rfl
  · next hquestion =>
      cases ds with
      | nil => rfl
      | cons c ds => rw [openingAt, if_neg (by simpa using hquestion ds)]

theorem special_suffix (f : Flags) (cs r : List Char) (x : Opening)
    (h : special f cs = some (x, r)) : r <:+ cs := by
  -- Both spellings of a named group end in the same reader.
  have hname : ∀ rest, named f rest = some (x, r) → r <:+ rest := by
    intro rest h
    simp only [named, Option.map_eq_some_iff, Prod.mk.injEq, Prod.exists] at h
    rcases h with ⟨name, r', hread, -, rfl⟩
    exact groupName_suffix rest r' name hread
  cases cs with
  | nil => exact absurd h (by simp [special])
  | cons c rest =>
      rw [special] at h
      split at h
      · exact absurd h (by simp)
      split at h
      · split at h
        · exact absurd h (by simp)
        · exact (hname rest h).trans (List.suffix_cons c rest)
      split at h
      · split at h
        · exact ((hname _ h).trans (List.tail_suffix rest)).trans (List.suffix_cons c rest)
        · exact absurd h (by simp)
      · rcases Option.bind_eq_some_iff.mp h with ⟨⟨m, rest'⟩, hread, h⟩
        exact (afterSwitches_rest _ _ rest' r x h).1.trans
          (readSwitches_suffix f [] (c :: rest) rest' m hread)

theorem openingAt_suffix (f : Flags) (cs r : List Char) (x : Opening)
    (h : openingAt f cs = some (x, r)) : r <:+ cs := by
  cases cs with
  | nil => exact eq_of_found h ▸ List.suffix_refl _
  | cons c cs =>
      rw [openingAt] at h
      split at h
      · exact (special_suffix f cs r x h).trans (List.suffix_cons c cs)
      · exact eq_of_found h ▸ List.suffix_refl _

theorem opening_suffix (f : Flags) (cs r : List Char) (x : Opening)
    (h : opening f cs = some (x, r)) : r <:+ cs := by
  rw [opening_eq] at h
  exact (openingAt_suffix f _ r x h).trans (skip_suffix f cs)

theorem afterLazy_suffix (cs : List Char) : afterLazy cs <:+ cs := by
  unfold afterLazy
  split
  · exact List.suffix_cons _ _
  · exact List.suffix_refl _

/-- The end of a repetition with a least and a greatest count. -/
def finishCounts (f : Flags) (least : Nat) (most : Option Nat) (rest : List Char) :
    Read (Nat × Option Nat) :=
  if most.all (least ≤ ·) then some ((least, most), afterLazy (skip f rest)) else none

/-- The brace behind the greatest count. -/
def afterMost (f : Flags) (least : Nat) (most : Option Nat) : List Char → Read (Nat × Option Nat)
  | [] => none
  | c :: rest => if c = '\x7d' then finishCounts f least most rest else none

/-- The greatest count of a repetition, if there is one. -/
def greatest (f : Flags) (least : Nat) : List Char → Read (Nat × Option Nat)
  | [] => none
  | c :: rest =>
    if c = '\x7d' then finishCounts f least none rest
    else (count f (c :: rest)).bind fun most => afterMost f least (some most.1) most.2

/-- What follows the least count of a repetition. -/
def afterLeast (f : Flags) (least : Nat) : List Char → Read (Nat × Option Nat)
  | [] => none
  | c :: rest =>
    if c = '\x7d' then finishCounts f least (some least) rest
    else if c = ',' then greatest f least (skip f rest)
    else none

theorem afterMost_eq (f : Flags) (least : Nat) (most : Nat × List Char) :
    afterMost f least (some most.1) most.2 = match most.2 with
      | '\x7d' :: rest =>
        if least ≤ most.1 then some ((least, some most.1), afterLazy (skip f rest)) else none
      | _ => none := by
  rcases most with ⟨most, _ | ⟨c, rest⟩⟩
  · rfl
  · by_cases hc : c = '\x7d'
    · rw [hc, afterMost, if_pos rfl]
      simp [finishCounts]
    · simp [afterMost, hc]

theorem counts_eq (f : Flags) (cs : List Char) :
    counts f cs = (count f (skip f cs)).bind fun least => afterLeast f least.1 least.2 := by
  unfold counts
  cases count f (skip f cs) with
  | none => rfl
  | some found =>
      rcases found with ⟨least, rest⟩
      simp only [bind, Option.bind]
      split
      · rw [afterLeast, if_pos rfl, finishCounts]
        simp
      · -- Behind a comma there can be a second number, or none.
        rw [afterLeast, if_neg (by decide), if_pos rfl]
        generalize skip f _ = ds
        split
        · rw [greatest, if_pos rfl]
          rfl
        · next hclose =>
            cases ds with
            | nil => rfl
            | cons c ds =>
                rw [greatest, if_neg (by simpa using hclose ds)]
                cases count f (c :: ds) with
                | none => rfl
                | some most => exact (afterMost_eq f least most).symm
      · next hclose hcomma =>
          cases rest with
          | nil => rfl
          | cons c rest =>
              rw [afterLeast, if_neg (by simpa using hclose rest),
                if_neg (by simpa using hcomma rest)]

theorem finishCounts_suffix (f : Flags) (least : Nat) (most : Option Nat) (cs r : List Char)
    (x : Nat × Option Nat) (h : finishCounts f least most cs = some (x, r)) : r <:+ cs := by
  unfold finishCounts at h
  split at h
  · exact eq_of_found h ▸ (afterLazy_suffix _).trans (skip_suffix f cs)
  · exact absurd h (by simp)

theorem afterMost_suffix (f : Flags) (least : Nat) (most : Option Nat) (cs r : List Char)
    (x : Nat × Option Nat) (h : afterMost f least most cs = some (x, r)) : r <:+ cs := by
  cases cs with
  | nil => exact absurd h (by simp [afterMost])
  | cons c cs =>
      rw [afterMost] at h
      split at h
      · exact (finishCounts_suffix f _ _ cs r x h).trans (List.suffix_cons c cs)
      · exact absurd h (by simp)

theorem greatest_suffix (f : Flags) (least : Nat) (cs r : List Char) (x : Nat × Option Nat)
    (h : greatest f least cs = some (x, r)) : r <:+ cs := by
  cases cs with
  | nil => exact absurd h (by simp [greatest])
  | cons c cs =>
      rw [greatest] at h
      split at h
      · exact (finishCounts_suffix f _ _ cs r x h).trans (List.suffix_cons c cs)
      · rcases Option.bind_eq_some_iff.mp h with ⟨⟨most, rest⟩, hcount, h⟩
        exact (afterMost_suffix f _ _ rest r x h).trans (count_suffix f _ rest most hcount)

theorem afterLeast_rest (f : Flags) (least : Nat) (cs r : List Char) (x : Nat × Option Nat)
    (h : afterLeast f least cs = some (x, r)) : Rest r cs := by
  cases cs with
  | nil => exact absurd h (by simp [afterLeast])
  | cons c cs =>
      rw [afterLeast] at h
      refine .cons ?_ c
      split at h
      · exact finishCounts_suffix f _ _ cs r x h
      split at h
      · exact (greatest_suffix f least _ r x h).trans (skip_suffix f cs)
      · exact absurd h (by simp)

theorem counts_rest (f : Flags) (cs r : List Char) (x : Nat × Option Nat)
    (h : counts f cs = some (x, r)) : Rest r cs := by
  rw [counts_eq] at h
  rcases Option.bind_eq_some_iff.mp h with ⟨⟨least, rest⟩, hcount, h⟩
  exact (afterLeast_rest f least rest r x h).trans_suffix
    ((count_suffix f _ rest least hcount).trans (skip_suffix f cs))

/-! ### Steps -/

/-- What one part of a group says about reading on. -/
inductive Move
  | finish
  | go (s : State)
  | enter (flags : Flags) (name : Option String)

/-- The last part repeated. -/
def State.repeating (s : State) (least : Nat) (most : Option Nat) : Option Move :=
  (repeatLast least most s.items).map fun items => .go { s with items }

/-- A pattern as the next part. -/
def State.adding (s : State) (p : Pattern) : Move :=
  .go (s.pushPattern p)

/-- The part that the start of a group makes, unless its name is taken. -/
def State.opened (s : State) : Opening → Option Move
  | .directive flags => some (.go ({ s with flags }.push .directive))
  | .group flags name => if name.any s.names.contains then none else some (.enter flags name)

/-- What a character starts outside of sets. -/
inductive Part
  | close
  | bar
  | group
  | set
  | repetition (least : Nat) (most : Option Nat)
  | counts
  | escape
  | char

/-- What a character starts. -/
def partOf : Char → Part
  | ')' => .close
  | '|' => .bar
  | '(' => .group
  | '[' => .set
  | '?' => .repetition 0 (some 1)
  | '*' => .repetition 0 none
  | '+' => .repetition 1 none
  | '\x7b' => .counts
  | '\\' => .escape
  | _ => .char

theorem eq_of_partOf_close (c : Char) (h : partOf c = .close) : c = ')' := by
  unfold partOf at h
  split at h
  · rfl
  all_goals exact absurd h (by simp)

/-- No character stands for a repetition that asks for more than it allows. -/
theorem le_of_partOf_repetition (c : Char) (least : Nat) (most : Option Nat)
    (h : partOf c = .repetition least most) : ∀ m ∈ most, least ≤ m := by
  intro m hm
  unfold partOf at h
  split at h <;> simp only [reduceCtorEq, Part.repetition.injEq] at h
  · exact h.1 ▸ Nat.zero_le m
  · exact h.1 ▸ Nat.zero_le m
  · exact absurd hm (by simp [← h.2])

variable [UnicodeNames]

/-- The part that starts with a character. -/
def moveAt (s : State) (c : Char) (rest : List Char) : Read Move :=
  match partOf c with
  | .close => some (.finish, c :: rest)
  | .bar =>
    some (.go { s with
      alternatives := sequence s.items.reverse :: s.alternatives, items := [] }, rest)
  | .group => (opening s.flags rest).bind fun o => (s.opened o.1).map (·, o.2)
  | .set =>
    (bracketed s.flags rest).map fun b => (.go (s.push (.term ⟨.char b.1.set, b.1.depth⟩)), b.2)
  | .repetition least most => (s.repeating least most).map (·, afterLazy rest)
  | .counts => (counts s.flags rest).bind fun b => (s.repeating b.1.1 b.1.2).map (·, b.2)
  | .escape =>
    (escape s.flags rest).bind fun e => ((ofEscaped s.flags e.1).map s.adding).map (·, e.2)
  | .char => ((plain s.flags c).map s.adding).map (·, rest)

/-- The part that a text starts with. -/
def move (s : State) : List Char → Read Move
  | [] => some (.finish, [])
  | c :: rest => moveAt s c rest

/-- A group with the names of groups that are known behind it, and the text after them. -/
def paired (g : Term × List String × List Char) : (Term × List String) × List Char :=
  ((g.1, g.2.1), g.2.2)

/-- A group, and the names of groups that are known behind it. -/
def readGroup (n : Nat) (s : State) (cs : List Char) : Read (Term × List String) :=
  (group n s cs).map paired

/-- What follows a group in parentheses: the closing one, and the group around it. -/
def afterGroup (read : State → List Char → Read (Term × List String)) (s : State)
    (inner : Term × List String) (rest : List Char) : Read (Term × List String) :=
  match rest with
  | [] => none
  | c :: rest =>
    if c = ')' then
      read ({ s with names := inner.2 }.push (.term ⟨inner.1.pattern, inner.1.depth + 1⟩)) rest
    else none

/-- A group after its first part, given what reads on. -/
def proceed (read : State → List Char → Read (Term × List String)) (s : State) (m : Move)
    (rest : List Char) : Read (Term × List String) :=
  match m with
  | .finish => some ((s.finished, s.names), rest)
  | .go t => read t rest
  | .enter flags name =>
    (read { flags, names := name.toList ++ s.names } rest).bind fun inner =>
      afterGroup read s inner.1 inner.2

theorem proceed_repeating (n : Nat) (s : State) (least : Nat) (most : Option Nat)
    (rest : List Char) :
    ((s.repeating least most).map (·, rest)).bind (fun m => proceed (readGroup n) s m.1 m.2)
      = (match repeatLast least most s.items with
        | some items => group n { s with items } rest
        | none => none).map paired := by
  rw [State.repeating]
  cases repeatLast least most s.items <;> rfl

theorem proceed_enter (n : Nat) (s : State) (flags : Flags) (name : Option String)
    (rest : List Char) :
    proceed (readGroup n) s (.enter flags name) rest
      = (match group n { flags, names := name.toList ++ s.names } rest with
        | some (t, names, ')' :: rest) =>
          group n ({ s with names }.push (.term ⟨t.pattern, t.depth + 1⟩)) rest
        | _ => none).map paired := by
  rw [proceed, readGroup]
  cases group n { flags, names := name.toList ++ s.names } rest with
  | none => rfl
  | some g =>
      rcases g with ⟨t, names, _ | ⟨c, r⟩⟩
      · rfl
      · by_cases hc : c = ')'
        · rw [hc]
          rfl
        · simp [paired, afterGroup, hc]

/-- A group is read part by part. -/
theorem readGroup_succ (n : Nat) (s : State) (cs : List Char) :
    readGroup (n + 1) s cs
      = (move s (skip s.flags cs)).bind fun m => proceed (readGroup n) s m.1 m.2 := by
  rw [readGroup]
  unfold group
  simp only
  split
  · next heq =>
      rw [heq]
      rfl
  · next heq =>
      rw [heq]
      rfl
  · next heq =>
      rw [heq]
      rfl
  · next rest heq =>
      rw [heq, move, moveAt]
      simp only [show partOf '(' = .group from rfl]
      cases opening s.flags rest with
      | none => rfl
      | some o =>
          rcases o with ⟨_ | ⟨flags, name⟩, rest⟩
          · rfl
          · simp only [Option.bind_some, State.opened]
            split
            · rfl
            · exact (proceed_enter n s flags name rest).symm
  · next rest heq =>
      rw [heq, move, moveAt]
      simp only [show partOf '[' = .set from rfl]
      cases bracketed s.flags rest <;> rfl
  · next rest heq =>
      rw [heq]
      exact (proceed_repeating n s 0 (some 1) (afterLazy rest)).symm
  · next rest heq =>
      rw [heq]
      exact (proceed_repeating n s 0 none (afterLazy rest)).symm
  · next rest heq =>
      rw [heq]
      exact (proceed_repeating n s 1 none (afterLazy rest)).symm
  · next rest heq =>
      rw [heq, move, moveAt]
      simp only [show partOf '\x7b' = .counts from rfl]
      cases counts s.flags rest with
      | none => rfl
      | some found =>
          rcases found with ⟨⟨least, most⟩, rest⟩
          exact (proceed_repeating n s least most rest).symm
  · next rest heq =>
      rw [heq, move, moveAt]
      simp only [show partOf '\\' = .escape from rfl]
      cases escape s.flags rest with
      | none => rfl
      | some found =>
          rcases found with ⟨e, rest⟩
          simp only [Option.bind]
          cases ofEscaped s.flags e <;> rfl
  · -- What is none of the signs above stands for itself.
    next c rest h1 h2 h3 h4 h5 h6 h7 h8 h9 heq =>
      have hother : partOf c = .char := by
        unfold partOf
        split <;> first | rfl | contradiction
      rw [heq, move, moveAt, hother]
      cases plain s.flags c <;> rfl

/-- A part ends the group at a closing parenthesis, or it leaves the end of what follows its first
    character. -/
theorem moveAt_cases (s : State) (c : Char) (rest r : List Char) (m : Move)
    (h : moveAt s c rest = some (m, r)) :
    (m = .finish ∧ c = ')' ∧ r = c :: rest) ∨ (m ≠ .finish ∧ r <:+ rest) := by
  -- Repetitions and new parts are each made in several branches, and leave the text as it is.
  have hrepeat : ∀ least most rest', ((s.repeating least most).map fun m => (m, rest'))
      = some (m, r) → m ≠ .finish ∧ r = rest' := by
    intro least most rest' h
    rw [State.repeating] at h
    simp only [Option.map_map, Option.map_eq_some_iff, Function.comp, Prod.mk.injEq] at h
    rcases h with ⟨items, -, rfl, rfl⟩
    exact ⟨by simp, rfl⟩
  have hpush : ∀ (p? : Option Pattern) rest', (p?.map s.adding).map (·, rest')
      = some (m, r) → m ≠ .finish ∧ r = rest' := by
    intro p? rest' h
    simp only [Option.map_eq_some_iff, Prod.mk.injEq] at h
    rcases h with ⟨-, ⟨p, -, rfl⟩, rfl, rfl⟩
    exact ⟨by simp [State.adding], rfl⟩
  unfold moveAt at h
  split at h
  · next hc =>
      rw [Option.some.injEq, Prod.mk.injEq] at h
      exact .inl ⟨h.1.symm, eq_of_partOf_close c hc, h.2.symm⟩
  · rw [Option.some.injEq, Prod.mk.injEq] at h
    exact .inr ⟨by simp [← h.1], h.2 ▸ List.suffix_refl _⟩
  · rcases Option.bind_eq_some_iff.mp h with ⟨⟨o, rest'⟩, hopening, h⟩
    have hrest := opening_suffix s.flags rest rest' o hopening
    simp only [Option.map_eq_some_iff, Prod.mk.injEq] at h
    rcases h with ⟨x, hopened, rfl, rfl⟩
    refine .inr ⟨?_, hrest⟩
    cases o with
    | directive flags => exact Option.some.inj hopened ▸ by simp
    | group flags name =>
        rw [State.opened] at hopened
        split at hopened
        · exact absurd hopened (by simp)
        · exact Option.some.inj hopened ▸ by simp
  · simp only [Option.map_eq_some_iff, Prod.mk.injEq, Prod.exists] at h
    rcases h with ⟨set, rest', hset, rfl, rfl⟩
    exact .inr ⟨by simp, (bracketed_rest s.flags rest rest' set hset).1⟩
  · have hr := hrepeat _ _ _ h
    exact .inr ⟨hr.1, hr.2 ▸ afterLazy_suffix rest⟩
  · rcases Option.bind_eq_some_iff.mp h with ⟨⟨b, rest'⟩, hcounts, h⟩
    have hr := hrepeat _ _ _ h
    exact .inr ⟨hr.1, hr.2 ▸ (counts_rest s.flags rest rest' b hcounts).1⟩
  · rcases Option.bind_eq_some_iff.mp h with ⟨⟨e, rest'⟩, hescape, h⟩
    have hr := hpush _ _ h
    exact .inr ⟨hr.1, hr.2 ▸ (escape_rest s.flags rest rest' e hescape).1⟩
  · have hr := hpush _ _ h
    exact .inr ⟨hr.1, hr.2 ▸ List.suffix_refl _⟩

/-- A text with nothing in front of the end of a group. -/
def AtClose (cs : List Char) : Prop :=
  cs = [] ∨ ∃ rest, cs = ')' :: rest

/-- A part ends the group at the end of the text or at a closing parenthesis, which is left, or it
    leaves less than there was. -/
theorem move_cases (s : State) (cs r : List Char) (m : Move) (h : move s cs = some (m, r)) :
    (m = .finish ∧ r = cs ∧ AtClose cs) ∨ (m ≠ .finish ∧ Rest r cs) := by
  cases cs with
  | nil =>
      rw [move, Option.some.injEq, Prod.mk.injEq] at h
      exact .inl ⟨h.1.symm, h.2.symm, .inl rfl⟩
  | cons c cs =>
      rcases moveAt_cases s c cs r m h with ⟨hm, hc, hr⟩ | ⟨hm, hr⟩
      · exact .inl ⟨hm, hr, .inr ⟨cs, by rw [hc]⟩⟩
      · exact .inr ⟨hm, .cons hr c⟩

theorem afterGroup_suffix (n : Nat)
    (hread : ∀ s cs r x, readGroup n s cs = some (x, r) → r <:+ cs ∧ AtClose r) (s : State)
    (inner : Term × List String) (cs r : List Char) (x : Term × List String)
    (h : afterGroup (readGroup n) s inner cs = some (x, r)) : r <:+ cs ∧ AtClose r := by
  cases cs with
  | nil => exact absurd h (by simp [afterGroup])
  | cons c rest =>
      rw [afterGroup] at h
      split at h
      · have hr := hread _ rest r x h
        exact ⟨hr.1.trans (List.suffix_cons c rest), hr.2⟩
      · exact absurd h (by simp)

theorem proceed_suffix (n : Nat)
    (hread : ∀ s cs r x, readGroup n s cs = some (x, r) → r <:+ cs ∧ AtClose r) (s : State)
    (m : Move) (hm : m ≠ .finish) (cs r : List Char) (x : Term × List String)
    (h : proceed (readGroup n) s m cs = some (x, r)) : r <:+ cs ∧ AtClose r := by
  cases m with
  | finish => exact absurd rfl hm
  | go t => exact hread t cs r x h
  | enter flags name =>
      rcases Option.bind_eq_some_iff.mp h with ⟨⟨inner, rest⟩, hinner, h⟩
      have hr := afterGroup_suffix n hread s inner rest r x h
      exact ⟨hr.1.trans (hread _ cs rest inner hinner).1, hr.2⟩

theorem move_suffix (s : State) (cs r : List Char) (m : Move) (h : move s cs = some (m, r)) :
    r <:+ cs := by
  rcases move_cases s cs r m h with ⟨-, hr, -⟩ | ⟨-, hrest⟩
  · exact hr ▸ List.suffix_refl _
  · exact hrest.1

/-- A group leaves nothing, or a text that starts with its closing parenthesis. -/
theorem readGroup_suffix (n : Nat) (s : State) (cs r : List Char) (x : Term × List String)
    (h : readGroup n s cs = some (x, r)) : r <:+ cs ∧ AtClose r := by
  induction n generalizing s cs r x with
  | zero => exact absurd h (by simp [readGroup, group])
  | succ n ih =>
      rw [readGroup_succ] at h
      rcases Option.bind_eq_some_iff.mp h with ⟨⟨m, rest⟩, hmove, h⟩
      have hskip := skip_suffix s.flags cs
      rcases move_cases s _ rest m hmove with ⟨rfl, hr, hend⟩ | ⟨hm, hrest⟩
      · simp only [proceed, Option.some.injEq, Prod.mk.injEq] at h
        rw [← h.2, hr]
        exact ⟨hskip, hend⟩
      · have hr := proceed_suffix n ih s m hm rest r x h
        exact ⟨(hr.1.trans hrest.1).trans hskip, hr.2⟩

theorem proceed_leaves (n : Nat) (s : State) (m : Move) (cs r : List Char) (x : Term × List String)
    (h : proceed (readGroup n) s m cs = some (x, r)) : r <:+ cs := by
  by_cases hm : m = .finish
  · rw [hm, proceed] at h
    exact eq_of_found h ▸ List.suffix_refl _
  · exact (proceed_suffix n (readGroup_suffix n) s m hm cs r x h).1

end Pattern

end RunReport
