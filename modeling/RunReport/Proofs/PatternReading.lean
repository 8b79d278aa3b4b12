import Mathlib.Data.List.Infix
import RunReport.Pattern.Parser

/-!
# What Readers of Patterns Leave

Every reader of a part of a pattern leaves the end of the text it was given, and those that take a
character at least leave less than that.

The readers of the parser match on several characters at once and on the results of other readers.
Here each of them is first written as one reader after the other, where every reader looks at the
character in front and at nothing else: `braced_succ`, `bracedHex_eq`, `count_eq`,
`propertyEscape_eq`, `hexEscape_eq`, `boundaryEscape_brace`, `member_eq`, `asciiClass_cons`,
`setStart_eq` and `setBody_succ`. What a reader leaves can then be read off its parts. The same
equations say how far a reader looks ahead, which is what matters where more text is added behind.

The hard one is the body of a set, which is left by its closing bracket only after sets inside of it
were read by the same reader. There the bound on how far to read goes down by one for each member,
and a step is judged by what all readings with the smaller bound leave.

## Main definitions

* `Pattern.Rest`: A text is what is left of another after one character or more.
* `Pattern.run`: Characters of a kind, with blanks between them where these are left out.
* `Pattern.otherStep`, `Pattern.bodyStep`: What is read of a set behind blanks, given what reads on.

## Theorems

* `Pattern.skip_suffix`: Blanks are left out at the front.
* `Pattern.count_suffix`: A count leaves the end of its text.
* `Pattern.escape_cases`: An escape reads on in one of three ways, or not at all.
* `Pattern.escape_rest`: An escape leaves less than its text.
* `Pattern.member_rest`: A member of a set leaves less than its text.
* `Pattern.bracketed_rest`: A set leaves less than its text.
-/

namespace RunReport

namespace Pattern

/-! ### Rests -/

/-- A text is what is left of another after one character or more. -/
def Rest (r cs : List Char) : Prop :=
  r <:+ cs ∧ r.length < cs.length

theorem Rest.cons {r cs : List Char} (h : r <:+ cs) (c : Char) : Rest r (c :: cs) :=
  ⟨h.trans (List.suffix_cons c cs), Nat.lt_succ_of_le h.length_le⟩

theorem Rest.of_suffix {r cs ds : List Char} (h : r <:+ cs) (h' : Rest cs ds) : Rest r ds :=
  ⟨h.trans h'.1, Nat.lt_of_le_of_lt h.length_le h'.2⟩

theorem Rest.trans_suffix {r cs ds : List Char} (h : Rest r cs) (h' : cs <:+ ds) : Rest r ds :=
  ⟨h.1.trans h', Nat.lt_of_lt_of_le h.2 h'.length_le⟩

/-! ### Results -/

theorem eq_of_found {α : Type} {x y : α} {cs r : List Char} (h : some (x, cs) = some (y, r)) :
    r = cs := by
  rw [Option.some.injEq, Prod.mk.injEq] at h
  exact h.2.symm

theorem eq_of_mapped {α β : Type} {o : Option β} {g : β → α} {x : α} {cs r : List Char}
    (h : (o.map fun y => (g y, cs)) = some (x, r)) : r = cs := by
  rcases Option.map_eq_some_iff.mp h with ⟨y, -, h⟩
  exact (Prod.mk.inj h).2.symm

theorem found_of_mapped {α β : Type} {m : Read β} {g : β × List Char → α × List Char} {x : α}
    {r : List Char} (h : m.map g = some (x, r)) (hg : ∀ found, (g found).2 = found.2) :
    ∃ y, m = some (y, r) := by
  rcases Option.map_eq_some_iff.mp h with ⟨⟨y, r'⟩, hm, h⟩
  have hr : r = r' := (congrArg Prod.snd h).symm.trans (hg (y, r'))
  exact ⟨y, hr ▸ hm⟩

/-! ### Blanks -/

theorem afterBlanks_suffix (inComment : Bool) (cs : List Char) :
    afterBlanks inComment cs <:+ cs := by
  induction cs generalizing inComment with
  | nil => exact List.suffix_refl _
  | cons c cs ih =>
      unfold afterBlanks
      repeat' split
      all_goals first
        | exact (ih _).trans (List.suffix_cons c cs)
        | exact List.suffix_refl _

theorem skip_suffix (f : Flags) (cs : List Char) : skip f cs <:+ cs := by
  unfold skip
  split
  · exact afterBlanks_suffix false cs
  · exact List.suffix_refl cs

theorem trimStart_suffix (cs : List Char) : Text.trimStart cs <:+ cs :=
  List.dropWhile_suffix _

/-! ### Numbers -/

theorem fixedHex_suffix (f : Flags) (n value : Nat) (cs r : List Char) (x : Char)
    (h : fixedHex f n value cs = some (x, r)) : r <:+ cs := by
  induction n generalizing value cs with
  | zero =>
      exact eq_of_mapped h ▸ List.suffix_refl cs
  | succ n ih =>
      cases cs with
      | nil => exact absurd h (by simp [fixedHex])
      | cons c cs =>
          rw [fixedHex] at h
          split at h
          · exact ((ih _ _ h).trans (skip_suffix f cs)).trans (List.suffix_cons c cs)
          · exact absurd h (by simp)

theorem fixedHex_rest (f : Flags) (n value : Nat) (cs r : List Char) (x : Char)
    (h : fixedHex f (n + 1) value cs = some (x, r)) : Rest r cs := by
  cases cs with
  | nil => exact absurd h (by simp [fixedHex])
  | cons c cs =>
      rw [fixedHex] at h
      split at h
      · exact .cons ((fixedHex_suffix f n _ _ r x h).trans (skip_suffix f cs)) c
      · exact absurd h (by simp)

/-- A text up to a closing brace behind blanks, given how far to read on. -/
def bracedStep (f : Flags) (n : Nat) : List Char → Read (List Char)
  | [] => none
  | c :: rest =>
    if c = '\x7d' then some ([], rest) else (braced f n rest).map fun m => (c :: m.1, m.2)

theorem braced_succ (f : Flags) (n : Nat) (cs : List Char) :
    braced f (n + 1) cs = bracedStep f n (skip f cs) := by
  rw [braced]
  split
  · next heq => rw [heq, bracedStep]
  · next heq => rw [heq, bracedStep, if_pos rfl]
  · next hc heq => rw [heq, bracedStep, if_neg hc]

theorem bracedStep_rest (f : Flags) (n : Nat)
    (hread : ∀ cs r name, braced f n cs = some (name, r) → Rest r cs) (cs r name : List Char)
    (h : bracedStep f n cs = some (name, r)) : Rest r cs := by
  cases cs with
  | nil => exact absurd h (by simp [bracedStep])
  | cons c cs =>
      rw [bracedStep] at h
      split at h
      · exact eq_of_found h ▸ .cons (List.suffix_refl cs) c
      · rcases found_of_mapped h fun _ => rfl with ⟨name', h⟩
        exact .cons (hread cs r name' h).1 c

theorem braced_rest (f : Flags) (n : Nat) (cs r name : List Char)
    (h : braced f n cs = some (name, r)) : Rest r cs := by
  induction n generalizing cs r name with
  | zero => exact absurd h (by simp [braced])
  | succ n ih =>
      rw [braced_succ] at h
      exact (bracedStep_rest f n ih _ r name h).trans_suffix (skip_suffix f cs)

theorem bracedHex_eq (f : Flags) (cs : List Char) :
    bracedHex f cs = ((braced f (cs.length + 1) cs).bind fun m =>
      ((Numeral.valueIn? 16 m.1).bind charOf?).map (·, m.2)).map fun m => (m.1, skip f m.2) := by
  unfold bracedHex
  cases braced f (cs.length + 1) cs with
  | none => rfl
  | some m =>
      simp only [bind, Option.bind]
      cases Numeral.valueIn? 16 m.1 with
      | none => rfl
      | some value =>
          simp only
          cases charOf? value <;> rfl

theorem bracedHex_rest (f : Flags) (cs r : List Char) (x : Char)
    (h : bracedHex f cs = some (x, r)) : Rest r cs := by
  rw [bracedHex_eq] at h
  simp only [Option.map_eq_some_iff, Option.bind_eq_some_iff, Prod.mk.injEq, Prod.exists] at h
  rcases h with ⟨c, rest, ⟨digits, rest', hread, c', -, -, rfl⟩, -, rfl⟩
  exact .of_suffix (skip_suffix f rest') (braced_rest f _ cs rest' digits hread)

/-- Characters of a kind, with blanks between them where these are left out. -/
def run (kind : Char → Bool) (f : Flags) : Nat → List Char → List Char × List Char
  | 0, cs => ([], cs)
  | n + 1, cs =>
    match cs with
    | c :: rest =>
      if kind c then
        let (ds, rest) := run kind f n (skip f rest)
        (c :: ds, rest)
      else ([], cs)
    | [] => ([], [])

theorem run_nil (kind : Char → Bool) (f : Flags) (n : Nat) : run kind f n [] = ([], []) := by
  cases n <;> rfl

theorem countDigits_eq_run (f : Flags) (n : Nat) (cs : List Char) :
    countDigits f n cs = run Char.isDigit f n cs := by
  induction n generalizing cs with
  | zero => rfl
  | succ n ih =>
      cases cs with
      | nil => rfl
      | cons c cs => rw [countDigits, run, ih]

theorem boundaryName_eq_run (f : Flags) (n : Nat) (cs : List Char) :
    boundaryName f n cs = run (fun c => c.isAlpha || c = '-') f n cs := by
  induction n generalizing cs with
  | zero => rfl
  | succ n ih =>
      cases cs with
      | nil => rfl
      | cons c cs => rw [boundaryName, run, ih]

theorem leadingHyphens_eq_run (f : Flags) (n : Nat) (cs : List Char) :
    leadingHyphens f n cs
      = ((run (· = '-') f n cs).1.map fun _ => ⟨.single '-', 0⟩, (run (· = '-') f n cs).2) := by
  induction n generalizing cs with
  | zero => rfl
  | succ n ih =>
      cases cs with
      | nil => rfl
      | cons c cs =>
          by_cases hc : c = '-'
          · rw [hc, leadingHyphens, run, ih]
            rfl
          · rw [run, if_neg (by simpa using hc)]
            unfold leadingHyphens
            split
            · next heq => exact absurd (List.cons.inj heq).1 hc
            · rfl

theorem run_suffix (kind : Char → Bool) (f : Flags) (n : Nat) (cs : List Char) :
    (run kind f n cs).2 <:+ cs := by
  induction n generalizing cs with
  | zero => exact List.suffix_refl _
  | succ n ih =>
      cases cs with
      | nil => exact List.suffix_refl _
      | cons c cs =>
          rw [run]
          split
          · exact ((ih _).trans (skip_suffix f cs)).trans (List.suffix_cons c cs)
          · exact List.suffix_refl _

/-- A count is what the digits write that stand behind blanks. -/
theorem count_eq (f : Flags) (cs : List Char) :
    count f cs = ((Numeral.valueOf? (run Char.isDigit f ((Text.trimStart cs).length + 1)
        (Text.trimStart cs)).1).filter (· < Nat.pow 2 32)).map fun n =>
      (n, skip f (Text.trimStart (run Char.isDigit f ((Text.trimStart cs).length + 1)
        (Text.trimStart cs)).2)) := by
  unfold count
  simp only [countDigits_eq_run]
  generalize run Char.isDigit f ((Text.trimStart cs).length + 1) (Text.trimStart cs) = found
  rcases found with ⟨digits, rest⟩
  cases h : (Numeral.valueOf? digits).filter (· < Nat.pow 2 32) with
  | none => simp only [bind, Option.bind, Option.map]
  | some n => simp only [bind, Option.bind, Option.map]

theorem count_suffix (f : Flags) (cs r : List Char) (x : Nat) (h : count f cs = some (x, r)) :
    r <:+ cs := by
  rw [count_eq] at h
  simp only [Option.map_eq_some_iff, Prod.mk.injEq] at h
  rcases h with ⟨n, -, -, rfl⟩
  exact (((skip_suffix f _).trans (trimStart_suffix _)).trans (run_suffix _ f _ _)).trans
    (trimStart_suffix cs)

/-! ### Escapes -/

/-- A set that was named, with the flags in force. -/
def propertyOf? (f : Flags) (negated : Bool) (found : CharSet × Bool) : Option CharSet :=
  if f.unicode then negatable f (negated != found.2) (caseless f found.1) else none

section Properties

variable [UnicodeNames]

/-- The name of a set of Unicode. -/
def propertyAt (f : Flags) (negated : Bool) : List Char → Read CharSet
  | [] => none
  | c :: rest =>
    if c = '\x7b' then
      (braced f (rest.length + 1) rest).bind fun m =>
        ((propertySet? m.1).bind (propertyOf? f negated)).map (·, m.2)
    else if c = '\\' then none
    else
      ((UnicodeNames.named? [c]).bind fun s => propertyOf? f negated (s, false)).map
        (·, skip f rest)

theorem propertyEscape_eq (f : Flags) (negated : Bool) (cs : List Char) :
    propertyEscape f negated cs = propertyAt f negated (skip f cs) := by
  -- All ways to name a property end in the same step, so it gets a name first.
  have hfinish : ∀ (s : CharSet) flip (rest : List Char), (if f.unicode then
      (negatable f (negated != flip) (caseless f s)).map fun s => (s, rest) else none)
        = (propertyOf? f negated (s, flip)).map (·, rest) := by
    intro s flip rest
    unfold propertyOf?
    split <;> rfl
  unfold propertyEscape
  simp only [hfinish]
  split
  · next heq => rw [heq, propertyAt]
  · next rest heq =>
      rw [heq, propertyAt, if_pos rfl]
      cases braced f (rest.length + 1) rest with
      | none => rfl
      | some m =>
          simp only [bind, Option.bind]
          cases propertySet? m.1 <;> rfl
  · next heq =>
      rw [heq, propertyAt, if_neg (by decide), if_pos rfl]
  · next c rest hbrace hslash heq =>
      rw [heq, propertyAt, if_neg (by simpa using hbrace), if_neg (by simpa using hslash)]
      simp only [bind, Option.bind]
      cases UnicodeNames.named? [c] <;> rfl

theorem propertyAt_rest (f : Flags) (negated : Bool) (cs r : List Char) (x : CharSet)
    (h : propertyAt f negated cs = some (x, r)) : Rest r cs := by
  cases cs with
  | nil => exact absurd h (by simp [propertyAt])
  | cons c rest =>
      refine .cons ?_ c
      rw [propertyAt] at h
      split at h
      · rcases Option.bind_eq_some_iff.mp h with ⟨⟨name, rest'⟩, hread, h⟩
        exact eq_of_mapped h ▸ (braced_rest f _ rest rest' name hread).1
      split at h
      · exact absurd h (by simp)
      · exact eq_of_mapped h ▸ skip_suffix f rest

theorem propertyEscape_rest (f : Flags) (negated : Bool) (cs r : List Char) (x : CharSet)
    (h : propertyEscape f negated cs = some (x, r)) : Rest r cs := by
  rw [propertyEscape_eq] at h
  exact (propertyAt_rest f negated _ r x h).trans_suffix (skip_suffix f cs)

end Properties

/-- A hexadecimal number, in braces or of so many digits. -/
def hexAt (f : Flags) (digits : Nat) : List Char → Read Escaped
  | [] => none
  | c :: rest =>
    if c = '\x7b' then (bracedHex f rest).map fun m => (.literal m.1 false, m.2)
    else (fixedHex f digits 0 (c :: rest)).map fun m => (.literal m.1 (digits == 2), m.2)

theorem hexEscape_eq (f : Flags) (digits : Nat) (cs : List Char) :
    hexEscape f digits cs = hexAt f digits (skip f cs) := by
  unfold hexEscape
  split
  · next heq => rw [heq, hexAt]
  · next heq => rw [heq, hexAt, if_pos rfl]
  · next hnil hbrace =>
      generalize skip f cs = ds at hnil hbrace
      cases ds with
      | nil => exact absurd rfl hnil
      | cons c ds => rw [hexAt, if_neg (by simpa using hbrace ds)]

theorem hexAt_rest (f : Flags) (digits : Nat) (cs r : List Char) (x : Escaped)
    (h : hexAt f (digits + 1) cs = some (x, r)) : Rest r cs := by
  cases cs with
  | nil => exact absurd h (by simp [hexAt])
  | cons c rest =>
      rw [hexAt] at h
      split at h
      · rcases found_of_mapped h fun _ => rfl with ⟨y, hread⟩
        exact .cons (bracedHex_rest f rest r y hread).1 c
      · rcases found_of_mapped h fun _ => rfl with ⟨y, hread⟩
        exact fixedHex_rest f digits 0 _ r y hread

theorem hexEscape_rest (f : Flags) (digits : Nat) (cs r : List Char) (x : Escaped)
    (h : hexEscape f (digits + 1) cs = some (x, r)) : Rest r cs := by
  rw [hexEscape_eq] at h
  exact (hexAt_rest f digits _ r x h).trans_suffix (skip_suffix f cs)

/-- Whether a character may stand in the name of a word boundary. -/
def isBoundaryChar (c : Char) : Bool :=
  c.isAlpha || c = '-'

/-- The brace behind the name of a word boundary. -/
def afterName (f : Flags) (name : List Char) : List Char → Read Escaped
  | [] => none
  | c :: rest =>
    if c = '\x7d' then
      (namedBoundary? (!f.unicode) (String.ofList name)).map fun a => (.assertion a, rest)
    else none

/-- The name of a word boundary and the brace behind it. -/
def boundaryNamed (f : Flags) (cs : List Char) : Read Escaped :=
  afterName f (run isBoundaryChar f (cs.length + 1) cs).1
    (run isBoundaryChar f (cs.length + 1) cs).2

/-- What follows the brace behind a word boundary: a name, or anything, and then the brace is part
    of something else. -/
def boundaryAt (f : Flags) (rest : List Char) : List Char → Read Escaped
  | [] => none
  | c :: more =>
    if isBoundaryChar c then boundaryNamed f (c :: more)
    else some (.assertion (.boundary !f.unicode), '\x7b' :: rest)

theorem afterName_eq (f : Flags) (m : List Char × List Char) :
    afterName f m.1 m.2 = match m with
      | (name, '\x7d' :: rest) =>
        (namedBoundary? (!f.unicode) (String.ofList name)).map fun a => (.assertion a, rest)
      | _ => none := by
  rcases m with ⟨name, _ | ⟨c, rest⟩⟩
  · rfl
  · by_cases hc : c = '\x7d'
    · rw [hc, afterName, if_pos rfl]
      rfl
    · simp [afterName, hc]

theorem boundaryEscape_brace (f : Flags) (rest : List Char) :
    boundaryEscape f ('\x7b' :: rest) = boundaryAt f rest (skip f rest) := by
  unfold boundaryEscape
  simp only [boundaryName_eq_run]
  cases skip f rest with
  | nil => rfl
  | cons c more =>
      rw [boundaryAt, boundaryNamed, afterName_eq]
      rfl

theorem boundaryEscape_of_ne (f : Flags) (cs : List Char) (h : ∀ rest, cs ≠ '\x7b' :: rest) :
    boundaryEscape f cs = some (.assertion (.boundary !f.unicode), cs) := by
  unfold boundaryEscape
  split
  · exact absurd rfl (h _)
  · rfl

theorem afterName_rest (f : Flags) (name cs r : List Char) (x : Escaped)
    (h : afterName f name cs = some (x, r)) : Rest r cs := by
  cases cs with
  | nil => exact absurd h (by simp [afterName])
  | cons c cs =>
      rw [afterName] at h
      split at h
      · exact eq_of_mapped h ▸ .cons (List.suffix_refl cs) c
      · exact absurd h (by simp)

theorem boundaryNamed_rest (f : Flags) (cs r : List Char) (x : Escaped)
    (h : boundaryNamed f cs = some (x, r)) : Rest r cs :=
  (afterName_rest f _ _ r x h).trans_suffix (run_suffix isBoundaryChar f _ cs)

theorem boundaryEscape_suffix (f : Flags) (cs r : List Char) (x : Escaped)
    (h : boundaryEscape f cs = some (x, r)) : r <:+ cs := by
  by_cases hbrace : ∃ rest, cs = '\x7b' :: rest
  · rcases hbrace with ⟨rest, rfl⟩
    have hskip := skip_suffix f rest
    rw [boundaryEscape_brace] at h
    unfold boundaryAt at h
    split at h
    · exact absurd h (by simp)
    · next c more heq =>
        rw [heq] at hskip
        split at h
        · exact ((boundaryNamed_rest f _ r x h).1.trans hskip).trans (List.suffix_cons _ _)
        · exact eq_of_found h ▸ List.suffix_refl _
  · rw [boundaryEscape_of_ne f cs fun rest h => hbrace ⟨rest, h⟩] at h
    exact eq_of_found h ▸ List.suffix_refl _

section Escapes

variable [UnicodeNames]

/-- An escape is a number, a set of Unicode or a word boundary, and otherwise its character stands
    for one thing, or for nothing. -/
theorem escape_cases (f : Flags) (c : Char) :
    (∃ digits, ∀ cs, escape f (c :: cs) = hexEscape f (digits + 1) cs) ∨
    (∃ negated, ∀ cs, escape f (c :: cs) = (propertyEscape f negated cs).map fun m =>
      (.set m.1, m.2)) ∨
    (∀ cs, escape f (c :: cs) = boundaryEscape f cs) ∨
    ∃ e : Option Escaped, ∀ cs, escape f (c :: cs) = e.map (·, cs) := by
  have hset : ∀ (s : Option CharSet) (cs : List Char),
      (s.map fun s => (Escaped.set s, cs)) = (s.map .set).map (·, cs) := by
    intro s cs
    cases s <;> rfl
  -- A character is in a branch whatever follows it, but only a text that is read shows which.
  by_cases hnone : ∀ cs, escape f (c :: cs) = none
  · exact .inr (.inr (.inr ⟨none, hnone⟩))
  · rcases not_forall.mp hnone with ⟨ds, hsome⟩
    unfold escape at hsome
    simp only at hsome
    split at hsome
    · next hself =>
        refine .inr (.inr (.inr ⟨some (.literal c false), fun cs => ?_⟩))
        unfold escape
        simp only [if_pos hself, Option.map_some]
    split at hsome
    · next hself _ x hcontrol =>
        refine .inr (.inr (.inr ⟨some (.literal x false), fun cs => ?_⟩))
        unfold escape
        simp only [if_neg hself, hcontrol, Option.map_some]
    split at hsome
    · exact .inl ⟨1, fun _ => rfl⟩
    · exact .inl ⟨3, fun _ => rfl⟩
    · exact .inl ⟨7, fun _ => rfl⟩
    · exact .inr (.inl ⟨false, fun _ => rfl⟩)
    · exact .inr (.inl ⟨true, fun _ => rfl⟩)
    · exact .inr (.inr (.inr ⟨some _, fun _ => rfl⟩))
    · exact .inr (.inr (.inr ⟨_, hset _⟩))
    · exact .inr (.inr (.inr ⟨some _, fun _ => rfl⟩))
    · exact .inr (.inr (.inr ⟨_, hset _⟩))
    · exact .inr (.inr (.inr ⟨some _, fun _ => rfl⟩))
    · exact .inr (.inr (.inr ⟨_, hset _⟩))
    · exact .inr (.inr (.inr ⟨some _, fun _ => rfl⟩))
    · exact .inr (.inr (.inr ⟨some _, fun _ => rfl⟩))
    · exact .inr (.inr (.inl fun _ => rfl))
    · exact .inr (.inr (.inr ⟨some _, fun _ => rfl⟩))
    · exact .inr (.inr (.inr ⟨some _, fun _ => rfl⟩))
    · exact .inr (.inr (.inr ⟨some _, fun _ => rfl⟩))
    · exact absurd rfl hsome

theorem escape_rest (f : Flags) (cs r : List Char) (x : Escaped) (h : escape f cs = some (x, r)) :
    Rest r cs := by
  cases cs with
  | nil => exact absurd h (by simp [escape])
  | cons c cs =>
      refine .cons ?_ c
      rcases escape_cases f c with ⟨digits, hc⟩ | ⟨negated, hc⟩ | hc | ⟨e, hc⟩
      · rw [hc] at h
        exact (hexEscape_rest f digits cs r x h).1
      · rw [hc] at h
        rcases found_of_mapped h fun _ => rfl with ⟨s, hread⟩
        exact (propertyEscape_rest f negated cs r s hread).1
      · rw [hc] at h
        exact boundaryEscape_suffix f cs r x h
      · rw [hc] at h
        exact eq_of_mapped h ▸ List.suffix_refl _

/-! ### Sets in brackets -/

theorem setItem_rest (f : Flags) (cs r : List Char) (x : Escaped)
    (h : setItem f cs = some (x, r)) : Rest r cs := by
  unfold setItem at h
  split at h
  · exact absurd h (by simp)
  · next cs => exact .cons (escape_rest f cs r x h).1 _
  · next c cs _ => exact eq_of_found h ▸ .cons (List.suffix_refl cs) c

/-- A member of a set by itself. -/
def alone (f : Flags) (first : Escaped) (rest : List Char) : Read SetTerm :=
  (memberSet? f first).map fun s => (⟨s, 0⟩, rest)

omit [UnicodeNames] in
theorem alone_suffix (f : Flags) (first : Escaped) (cs r : List Char) (x : SetTerm)
    (h : alone f first cs = some (x, r)) : r = cs :=
  eq_of_mapped h

/-- The interval between two members. -/
def between? (f : Flags) (first last : Escaped) : Option SetTerm :=
  (memberChar? f first).bind fun a => (memberChar? f last).bind fun b =>
    if a ≤ b then some ⟨.interval a b, 0⟩ else none

/-- What follows a hyphen behind a member, given what stands behind the hyphen and behind blanks. -/
def afterHyphen (f : Flags) (first : Escaped) (more next : List Char) : Read SetTerm :=
  if next.head? = some ']' ∨ next.head? = some '-' then alone f first ('-' :: more)
  else (setItem f next).bind fun last => (between? f first last.1).map (·, last.2)

/-- What follows the first end of an interval or a member by itself. -/
def afterItem (f : Flags) (first : Escaped) : List Char → Read SetTerm
  | [] => none
  | c :: more =>
    if c = '-' then afterHyphen f first more (skip f more) else alone f first (c :: more)

theorem member_eq (f : Flags) (cs : List Char) :
    member f cs = (setItem f cs).bind fun m => afterItem f m.1 (skip f m.2) := by
  -- An interval is read in one chain and compared at its end; `between?` has the comparison.
  have hbetween : ∀ first last (rest : List Char),
      ((memberChar? f first).bind fun a => (memberChar? f last).bind fun b =>
        if a ≤ b then some ((⟨.interval a b, 0⟩ : SetTerm), rest) else none)
        = (between? f first last).map (·, rest) := by
    intro first last rest
    unfold between?
    cases memberChar? f first with
    | none => rfl
    | some a =>
        cases memberChar? f last with
        | none => rfl
        | some b =>
            simp only [Option.bind]
            split <;> rfl
  unfold member
  cases setItem f cs with
  | none => rfl
  | some m =>
      simp only [bind, Option.bind_some]
      generalize skip f m.2 = rest
      split
      · rfl
      · rw [afterItem, if_pos rfl, afterHyphen]
        simp only [hbetween]
        rfl
      · next hnil hhyphen =>
          cases rest with
          | nil => exact absurd rfl hnil
          | cons c rest =>
              rw [afterItem, if_neg (by simpa using hhyphen rest)]
              rfl

theorem afterItem_suffix (f : Flags) (first : Escaped) (cs r : List Char) (x : SetTerm)
    (h : afterItem f first cs = some (x, r)) : r <:+ cs := by
  cases cs with
  | nil => exact absurd h (by simp [afterItem])
  | cons c more =>
      rw [afterItem] at h
      split at h
      · next hc =>
          rw [afterHyphen] at h
          split at h
          · exact hc ▸ alone_suffix f first _ r x h ▸ List.suffix_refl _
          · rcases Option.bind_eq_some_iff.mp h with ⟨⟨last, rest⟩, hlast, h⟩
            rw [eq_of_mapped h]
            exact ((setItem_rest f _ rest last hlast).1.trans (skip_suffix f more)).trans
              (List.suffix_cons c more)
      · exact alone_suffix f first _ r x h ▸ List.suffix_refl _

theorem member_rest (f : Flags) (cs r : List Char) (x : SetTerm)
    (h : member f cs = some (x, r)) : Rest r cs := by
  rw [member_eq] at h
  rcases Option.bind_eq_some_iff.mp h with ⟨⟨first, rest⟩, hfirst, h⟩
  exact .of_suffix ((afterItem_suffix f first _ r x h).trans (skip_suffix f rest))
    (setItem_rest f cs rest first hfirst)

end Escapes

/-- Whether a text starts with a caret, and what follows it. -/
def afterCaret (next : List Char → List Char) : List Char → Bool × List Char
  | '^' :: cs => (true, next cs)
  | cs => (false, cs)

theorem afterCaret_of_ne (next : List Char → List Char) (c : Char) (cs : List Char) (h : c ≠ '^') :
    afterCaret next (c :: cs) = (false, c :: cs) := by
  unfold afterCaret
  split
  · next heq => exact absurd (List.cons.inj heq).1 h
  · rfl

theorem afterCaret_suffix (next : List Char → List Char) (hnext : ∀ cs, next cs <:+ cs)
    (cs : List Char) : (afterCaret next cs).2 <:+ cs := by
  unfold afterCaret
  split
  · exact (hnext _).trans (List.suffix_cons _ _)
  · exact List.suffix_refl _

/-- What follows the colon and the bracket at the end of a class. -/
def afterColon? : List Char → Option (List Char)
  | c :: d :: rest => if c = ':' ∧ d = ']' then some rest else none
  | _ => none

/-- The class that stands between colons, given whether it is negated. -/
def classBody (f : Flags) (negated : Bool) (cs : List Char) :
    Option (Option CharSet × List Char) :=
  (afterColon? (cs.dropWhile (· ≠ ':'))).bind fun rest =>
    (CharSet.asciiClass? (String.ofList (cs.takeWhile (· ≠ ':')))).map fun s =>
      (negatable f negated (caseless f s), rest)

/-- What is left of a text behind characters of a kind. -/
theorem drop_takeWhile (kind : Char → Bool) (cs : List Char) :
    cs.drop (cs.takeWhile kind).length = cs.dropWhile kind := by
  have happend := List.takeWhile_append_dropWhile (p := kind) (l := cs)
  rw [← congrArg (List.drop (cs.takeWhile kind).length) happend, List.drop_left]

theorem classBody_eq (f : Flags) (negated : Bool) (cs : List Char) :
    classBody f negated cs = match cs.drop (cs.takeWhile (· ≠ ':')).length with
      | ':' :: ']' :: rest =>
        match CharSet.asciiClass? (String.ofList (cs.takeWhile (· ≠ ':'))) with
        | some s => some (negatable f negated (caseless f s), rest)
        | none => none
      | _ => none := by
  rw [drop_takeWhile, classBody]
  rcases cs.dropWhile fun c => decide (c ≠ ':') with _ | ⟨c, _ | ⟨d, rest⟩⟩
  · rfl
  · simp [afterColon?]
  · -- A class ends with a colon and a bracket, and with nothing else.
    by_cases hcd : c = ':' ∧ d = ']'
    · rw [hcd.1, hcd.2]
      cases CharSet.asciiClass? (String.ofList (cs.takeWhile fun c => decide (c ≠ ':'))) <;> rfl
    · rw [afterColon?, if_neg hcd]
      split
      · next heq =>
          simp only [List.cons.injEq] at heq
          exact absurd ⟨heq.1, heq.2.1⟩ hcd
      · rfl

theorem asciiClass_cons (f : Flags) (cs : List Char) :
    asciiClass f (':' :: cs) = classBody f (afterCaret id cs).1 (afterCaret id cs).2 := by
  rw [classBody_eq]
  rfl

/-- The first members of a set, if these are hyphens or a closing bracket. -/
def firstMembers (f : Flags) (cs : List Char) : List SetTerm × List Char :=
  let hyphens := run (· = '-') f (cs.length + 1) cs
  if hyphens.1 = [] ∧ hyphens.2.head? = some ']' then
    ([⟨.single ']', 0⟩], skip f hyphens.2.tail)
  else (hyphens.1.map fun _ => ⟨.single '-', 0⟩, hyphens.2)

theorem firstMembers_eq (f : Flags) (negated : Bool) (cs : List Char) :
    (negated, firstMembers f cs) = match leadingHyphens f (cs.length + 1) cs with
      | ([], ']' :: rest) => (negated, [⟨.single ']', 0⟩], skip f rest)
      | (ms, rest) => (negated, ms, rest) := by
  rw [leadingHyphens_eq_run, firstMembers]
  generalize run (fun c => decide (c = '-')) f (cs.length + 1) cs = found
  rcases found with ⟨_ | ⟨h, hs⟩, _ | ⟨c, rest⟩⟩
  · rfl
  · by_cases hc : c = ']'
    · rw [hc]
      rfl
    · simp [hc]
  · rfl
  · rfl

theorem setStart_eq (f : Flags) (cs : List Char) :
    setStart f cs = ((afterCaret (skip f) (skip f cs)).1,
      firstMembers f (afterCaret (skip f) (skip f cs)).2) := by
  rw [firstMembers_eq]
  rfl

theorem classBody_suffix (f : Flags) (negated : Bool) (cs r : List Char) (x : Option CharSet)
    (h : classBody f negated cs = some (x, r)) : r <:+ cs := by
  have hdrop := List.dropWhile_suffix (l := cs) fun c => decide (c ≠ ':')
  rcases Option.bind_eq_some_iff.mp h with ⟨rest, hcolon, h⟩
  rw [eq_of_mapped h]
  refine .trans ?_ hdrop
  unfold afterColon? at hcolon
  split at hcolon
  · next heq =>
      rw [heq]
      split at hcolon
      · exact Option.some.inj hcolon ▸ (List.suffix_cons _ _).trans (List.suffix_cons _ _)
      · exact absurd hcolon (by simp)
  · exact absurd hcolon (by simp)

theorem asciiClass_rest (f : Flags) (cs r : List Char) (x : Option CharSet)
    (h : asciiClass f cs = some (x, r)) : Rest r cs := by
  have hcolon : ∃ ds, cs = ':' :: ds := by
    unfold asciiClass at h
    split at h
    · exact ⟨_, rfl⟩
    · exact absurd h (by simp)
  rcases hcolon with ⟨ds, rfl⟩
  rw [asciiClass_cons] at h
  exact .cons ((classBody_suffix f _ _ r x h).trans
    (afterCaret_suffix id (fun _ => List.suffix_refl _) ds)) _

theorem firstMembers_suffix (f : Flags) (cs : List Char) : (firstMembers f cs).2 <:+ cs := by
  have hrun := run_suffix (fun c => decide (c = '-')) f (cs.length + 1) cs
  unfold firstMembers
  simp only
  split
  · exact ((skip_suffix f _).trans (List.tail_suffix _)).trans hrun
  · exact hrun

theorem setStart_suffix (f : Flags) (cs : List Char) : (setStart f cs).2.2 <:+ cs := by
  rw [setStart_eq]
  exact ((firstMembers_suffix f _).trans (afterCaret_suffix _ (skip_suffix f) _)).trans
    (skip_suffix f cs)

/-- The operator that a character written twice stands for. -/
def doubled? (c : Char) : Option SetOp :=
  if c = '&' then some .intersection
  else if c = '-' then some .difference
  else if c = '~' then some .symmetricDifference
  else none

/-- The operator that a text starts with. -/
def operator? : List Char → Read SetOp
  | c :: d :: rest => if d = c then (doubled? c).map (·, rest) else none
  | _ => none

theorem operator?_rest (cs r : List Char) (x : SetOp) (h : operator? cs = some (x, r)) :
    Rest r cs := by
  unfold operator? at h
  split at h
  · split at h
    · exact eq_of_mapped h ▸ .cons (List.suffix_cons _ _) _
    · exact absurd h (by simp)
  · exact absurd h (by simp)

section Bodies

variable [UnicodeNames]

/-- What is read of a set where neither a set nor the end stands next, given what reads on. -/
def otherStep (f : Flags)
    (read : Bool → Option (SetOp × SetTerm) → List SetTerm → List Char → Read SetTerm)
    (negated : Bool) (left : Option (SetOp × SetTerm)) (members : List SetTerm) (cs : List Char) :
    Read SetTerm :=
  match operator? cs with
  | some (op, rest) => read negated (some (op, pending f left members)) [] rest
  | none => (member f cs).bind fun m => read negated left (members ++ [m.1]) m.2

/-- What is read of a set behind blanks, given what reads on. -/
def bodyStep (f : Flags)
    (read : Bool → Option (SetOp × SetTerm) → List SetTerm → List Char → Read SetTerm)
    (negated : Bool) (left : Option (SetOp × SetTerm)) (members : List SetTerm) :
    List Char → Read SetTerm
  | [] => none
  | '[' :: rest =>
    match asciiClass f rest with
    | some (some s, rest) => read negated left (members ++ [⟨s, 0⟩]) rest
    | some (none, _) => none
    | none =>
      (read (setStart f rest).1 none (setStart f rest).2.1 (setStart f rest).2.2).bind fun inner =>
        read negated left (members ++ [inner.1]) inner.2
  | ']' :: rest =>
    (negatable f negated (caseless f (pending f left members).set)).map fun s =>
      (⟨s, (pending f left members).depth + 1⟩, rest)
  | cs => otherStep f read negated left members cs

theorem bodyStep_of_other (f : Flags)
    (read : Bool → Option (SetOp × SetTerm) → List SetTerm → List Char → Read SetTerm)
    (negated : Bool) (left : Option (SetOp × SetTerm)) (members : List SetTerm) (cs : List Char)
    (hnil : cs ≠ []) (hopen : ∀ rest, cs ≠ '[' :: rest) (hclose : ∀ rest, cs ≠ ']' :: rest) :
    bodyStep f read negated left members cs = otherStep f read negated left members cs := by
  unfold bodyStep
  split
  · exact absurd rfl hnil
  · exact absurd rfl (hopen _)
  · exact absurd rfl (hclose _)
  · rfl

theorem setBody_succ (f : Flags) (n : Nat) (negated : Bool) (left : Option (SetOp × SetTerm))
    (members : List SetTerm) (cs : List Char) :
    setBody f (n + 1) negated left members cs
      = bodyStep f (setBody f n) negated left members (skip f cs) := by
  unfold setBody
  generalize skip f cs = ds
  split
  · rfl
  · next rest =>
      unfold bodyStep
      simp only
      cases asciiClass f rest with
      | some found => rcases found with ⟨_ | s, rest⟩ <;> rfl
      | none =>
        simp only
        cases setBody f n (setStart f rest).1 none (setStart f rest).2.1 (setStart f rest).2.2
        · rfl
        · rfl
  · rfl
  · rfl
  · rfl
  · rfl
  · next hnil hopen hclose hand hminus htilde =>
      -- The branches above took every operator.
      have hnone : operator? ds = none := by
        rcases ds with _ | ⟨c, _ | ⟨d, rest⟩⟩
        · rfl
        · rfl
        · rw [operator?]
          split
          · next hd =>
              subst hd
              rw [doubled?, if_neg fun h => hand rest (by rw [h]),
                if_neg fun h => hminus rest (by rw [h]), if_neg fun h => htilde rest (by rw [h])]
              rfl
          · rfl
      rw [bodyStep_of_other _ _ _ _ _ _ hnil hopen hclose, otherStep, hnone]
      simp only
      cases member f ds <;> rfl

theorem bodyStep_rest (f : Flags)
    (read : Bool → Option (SetOp × SetTerm) → List SetTerm → List Char → Read SetTerm)
    (hread : ∀ negated left members cs r x, read negated left members cs = some (x, r) → Rest r cs)
    (negated : Bool) (left : Option (SetOp × SetTerm)) (members : List SetTerm)
    (cs r : List Char) (x : SetTerm)
    (h : bodyStep f read negated left members cs = some (x, r)) : Rest r cs := by
  unfold bodyStep at h
  split at h
  · exact absurd h (by simp)
  · next rest =>
      refine .cons ?_ _
      split at h
      · next s rest' hclass =>
          exact (hread _ _ _ _ _ _ h).1.trans (asciiClass_rest f rest rest' _ hclass).1
      · exact absurd h (by simp)
      · -- What stands in an inner set is read before what stands behind it.
        rcases Option.bind_eq_some_iff.mp h with ⟨⟨inner, rest'⟩, hinner, h⟩
        exact ((hread _ _ _ _ _ _ h).1.trans (hread _ _ _ _ _ _ hinner).1).trans
          (setStart_suffix f rest)
  · next rest =>
      exact eq_of_mapped h ▸ .cons (List.suffix_refl rest) _
  · unfold otherStep at h
    split at h
    · next op rest hop =>
        exact (hread _ _ _ _ _ _ h).trans_suffix (operator?_rest cs rest op hop).1
    · rcases Option.bind_eq_some_iff.mp h with ⟨⟨m, rest⟩, hmember, h⟩
      exact .of_suffix (hread _ _ _ _ _ _ h).1 (member_rest f cs rest m hmember)

theorem setBody_rest (f : Flags) (n : Nat) (negated : Bool) (left : Option (SetOp × SetTerm))
    (members : List SetTerm) (cs r : List Char) (x : SetTerm)
    (h : setBody f n negated left members cs = some (x, r)) : Rest r cs := by
  induction n generalizing negated left members cs r x with
  | zero => exact absurd h (by simp [setBody])
  | succ n ih =>
      rw [setBody_succ] at h
      exact (bodyStep_rest f (setBody f n) ih negated left members _ r x h).trans_suffix
        (skip_suffix f cs)

theorem setBody_nil (f : Flags) (n : Nat) (negated : Bool) (left : Option (SetOp × SetTerm))
    (members : List SetTerm) : setBody f n negated left members [] = none := by
  cases n with
  | zero => rfl
  | succ n =>
      rw [setBody_succ, List.suffix_nil.mp (skip_suffix f [])]
      rfl

theorem bracketed_rest (f : Flags) (cs r : List Char) (x : SetTerm)
    (h : bracketed f cs = some (x, r)) : Rest r cs :=
  (setBody_rest f _ _ _ _ _ r x h).trans_suffix (setStart_suffix f cs)

end Bodies

end Pattern

end RunReport
