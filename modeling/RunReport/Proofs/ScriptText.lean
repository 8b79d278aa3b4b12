/-!
# Texts in Scripts

What a text between single quotes stands for in a script.

A script writes a text between quotes. A character that would end the text, or the line, is written
behind a backslash, and so are characters that cannot be typed. So what is written (`Denotes`) and
the text that it stands for are two things, and the second is told in code units, because an escape
can name a half of a pair that is no character by itself.

Code units also measure how much is written. An escape never stands for more than it takes behind
its backslash (`length_escape`), so a body stands for less than it takes as soon as it has one. It
follows that a body stands for itself only if nothing in it is an escape or ends it
(`denotes_self_iff`). Which text an escape stands for plays no part in this.

## Main definitions

* `Script.unitsOf`, `Script.units`: The code units of a character and of a text.
* `Script.Escape`: What stands behind a backslash.
* `Script.Denotes`: A body between single quotes and the code units that it stands for.
* `Script.Plain`: A text without quotes, backslashes and line breaks.

## Theorems

* `length_unitsOf`, `length_le_units`: A character has one code unit or two.
* `unitsOf_append_inj`, `units_inj`: Texts with the same code units are the same.
* `length_escape`: An escape is not shorter than what it stands for.
* `length_denotes`: A body that is as long as what it stands for is plain.
* `denotes_plain_iff`: A plain body stands for itself and for nothing else.
* `denotes_self_iff`: A body stands for itself only if it is plain.
-/

namespace RunReport

namespace Script

/-! ### Code units -/

/-- The code units of a number of Unicode: itself, or a pair if it is too great for one. -/
def unitsOf (n : Nat) : List Nat :=
  if n < 0x10000 then [n] else [0xD800 + (n - 0x10000) / 0x400, 0xDC00 + (n - 0x10000) % 0x400]

/-- The code units of a text. -/
def units (cs : List Char) : List Nat :=
  cs.flatMap fun c => unitsOf c.toNat

theorem length_unitsOf (n : Nat) : 1 ≤ (unitsOf n).length ∧ (unitsOf n).length ≤ 2 := by
  unfold unitsOf
  by_cases h : n < 0x10000
  · rw [if_pos h]
    exact ⟨Nat.le_refl 1, Nat.le_succ 1⟩
  · rw [if_neg h]
    exact ⟨Nat.le_succ 1, Nat.le_refl 2⟩

theorem units_cons (c : Char) (cs : List Char) : units (c :: cs) = unitsOf c.toNat ++ units cs :=
  List.flatMap_cons

theorem units_append (as bs : List Char) : units (as ++ bs) = units as ++ units bs :=
  List.flatMap_append

theorem length_le_units (cs : List Char) : cs.length ≤ (units cs).length := by
  induction cs with
  | nil => exact Nat.le_refl 0
  | cons c cs ih =>
      have hc := (length_unitsOf c.toNat).1
      rw [units_cons, List.length_append, List.length_cons]
      omega

/-- The code units of a text begin with those of one character only: no character has a half of a
    pair for its number. -/
theorem unitsOf_append_inj (c d : Char) (us vs : List Nat)
    (h : unitsOf c.toNat ++ us = unitsOf d.toNat ++ vs) : c = d ∧ us = vs := by
  have hvalid : ∀ c : Char, c.toNat < 0xD800 ∨ 0xDFFF < c.toNat ∧ c.toNat < 0x110000 :=
    fun c => c.valid
  have hc := hvalid c
  have hd := hvalid d
  have hboth : c.toNat = d.toNat ∧ us = vs := by
    unfold unitsOf at h
    -- A pair and a single unit cannot begin alike: the first half of a pair is no character.
    split at h <;> split at h <;>
      simp only [List.cons_append, List.nil_append, List.cons.injEq] at h
    · exact h
    · omega
    · omega
    · exact ⟨by omega, h.2.2⟩
  exact ⟨Char.toNat_inj.mp hboth.1, hboth.2⟩

/-- Texts with the same code units are the same. -/
theorem units_inj (as bs : List Char) (h : units as = units bs) : as = bs := by
  have hpos : ∀ (c : Char) (cs : List Char), units (c :: cs) ≠ [] := by
    intro c cs hnil
    have hlength := length_le_units (c :: cs)
    rw [hnil] at hlength
    exact Nat.not_succ_le_zero _ hlength
  induction as generalizing bs with
  | nil =>
      cases bs with
      | nil => rfl
      | cons b bs => exact absurd h.symm (hpos b bs)
  | cons a as ih =>
      cases bs with
      | nil => exact absurd h (hpos a as)
      | cons b bs =>
          rw [units_cons, units_cons] at h
          rcases unitsOf_append_inj a b _ _ h with ⟨rfl, hrest⟩
          rw [ih bs hrest]

/-! ### Escapes -/

/-- The characters that end a line. -/
def lineEnds : List Char :=
  ['\n', '\r', '\u2028', '\u2029']

/-- The letters that stand for a character that cannot be typed, each with its number. -/
def letters : List (Char × Nat) :=
  [('b', 8), ('t', 9), ('n', 10), ('v', 11), ('f', 12), ('r', 13)]

/-- The value of a digit, also of a hexadecimal one in either case. -/
def digitValue (c : Char) : Nat :=
  if c.isDigit then c.toNat - '0'.toNat else c.toLower.toNat - 'a'.toNat + 10

/-- The number that digits write in some base. -/
def number (base : Nat) (ds : List Char) : Nat :=
  ds.foldl (fun n d => base * n + digitValue d) 0

/-- The digits in base 8. -/
def octals : List Char :=
  "01234567".toList

/-- The digits in base 16. -/
def hexadecimals : List Char :=
  "0123456789abcdefABCDEF".toList

/-- What stands behind a backslash, and the code units that it stands for. Digits in base 8 are as
    many as still make a byte, so it depends on what follows. -/
inductive Escape (rest : List Char) : List Char → List Nat → Prop
  | letter (c : Char) (n : Nat) (h : (c, n) ∈ letters) : Escape rest [c] [n]
  | octal (ds : List Char) (hne : ds ≠ []) (hds : ∀ d ∈ ds, d ∈ octals) (hlength : ds.length ≤ 3)
      (hbyte : number 8 ds < 256)
      (hlast : ∀ d ∈ rest.head?, d ∈ octals → ds.length < 3 → 256 ≤ number 8 (ds ++ [d])) :
      Escape rest ds [number 8 ds]
  | byte (ds : List Char) (hds : ∀ d ∈ ds, d ∈ hexadecimals) (hlength : ds.length = 2) :
      Escape rest ('x' :: ds) [number 16 ds]
  | unit (ds : List Char) (hds : ∀ d ∈ ds, d ∈ hexadecimals) (hlength : ds.length = 4) :
      Escape rest ('u' :: ds) [number 16 ds]
  | codePoint (ds : List Char) (hne : ds ≠ []) (hds : ∀ d ∈ ds, d ∈ hexadecimals)
      (hrange : number 16 ds ≤ 0x10FFFF) :
      Escape rest ('u' :: '{' :: (ds ++ ['}'])) (unitsOf (number 16 ds))
  | lineEnd (c : Char) (h : c ∈ lineEnds) : Escape rest [c] []
  | lineEndPair : Escape rest ['\r', '\n'] []
  | itself (c : Char) (hline : c ∉ lineEnds) (hother : c ∉ "01234567bfnrtuvx".toList) :
      Escape rest [c] (unitsOf c.toNat)

/-- An escape is not shorter than what it stands for. -/
theorem length_escape (rest e : List Char) (us : List Nat) (h : Escape rest e us) :
    us.length ≤ (units e).length := by
  have hlength := length_le_units e
  cases h with
  | letter c n => exact hlength
  | octal _ hne => exact Nat.le_trans (List.length_pos_iff.mpr hne) hlength
  | byte ds => exact Nat.le_trans (Nat.le_add_left 1 ds.length) hlength
  | unit ds => exact Nat.le_trans (Nat.le_add_left 1 ds.length) hlength
  | codePoint ds =>
      -- A pair is written with a letter and a brace at least.
      have hpair := (length_unitsOf (number 16 ds)).2
      rw [List.length_cons, List.length_cons] at hlength
      omega
  | lineEnd c => exact Nat.zero_le _
  | lineEndPair => exact Nat.zero_le _
  | itself c =>
      rw [units_cons, List.length_append]
      exact Nat.le_add_right _ _

/-! ### Bodies -/

/-- The characters that a body cannot have as they are. -/
def stops : List Char :=
  ['\'', '\\', '\n', '\r']

/-- A body between single quotes and the code units that it stands for. -/
inductive Denotes : List Char → List Nat → Prop
  | nil : Denotes [] []
  | char (c : Char) (cs : List Char) (us : List Nat) (hc : c ∉ stops) (h : Denotes cs us) :
      Denotes (c :: cs) (unitsOf c.toNat ++ us)
  | escape (e cs : List Char) (us vs : List Nat) (he : Escape cs e us) (h : Denotes cs vs) :
      Denotes ('\\' :: (e ++ cs)) (us ++ vs)

/-- A text without quotes, backslashes and line breaks. -/
def Plain (cs : List Char) : Prop :=
  ∀ c ∈ cs, c ∉ stops

instance (cs : List Char) : Decidable (Plain cs) :=
  List.decidableBAll (· ∉ stops) cs

/-- A body is not shorter than what it stands for, and if it is not longer it is plain. -/
theorem length_denotes (cs : List Char) (us : List Nat) (h : Denotes cs us) :
    us.length ≤ (units cs).length ∧ (us.length = (units cs).length → Plain cs) := by
  induction h with
  | nil => exact ⟨Nat.le_refl 0, fun _ _ hc => absurd hc List.not_mem_nil⟩
  | char c cs us hc _ ih =>
      rw [units_cons, List.length_append, List.length_append]
      refine ⟨Nat.add_le_add_left ih.1 _, fun hlength => ?_⟩
      have hrest : Plain cs := ih.2 (Nat.add_left_cancel hlength)
      exact List.forall_mem_cons.mpr ⟨hc, hrest⟩
  | escape e cs us vs he _ ih =>
      -- The backslash is one unit that stands for nothing.
      have hescape := length_escape cs e us he
      have hslash := (length_unitsOf '\\'.toNat).1
      rw [units_cons, units_append, List.length_append, List.length_append, List.length_append]
      exact ⟨by omega, fun hlength => by omega⟩

/-- A plain body stands for itself and for nothing else. -/
theorem denotes_plain_iff (cs : List Char) (us : List Nat) (h : Plain cs) :
    Denotes cs us ↔ us = units cs := by
  induction cs generalizing us with
  | nil =>
      refine ⟨fun hd => ?_, fun hus => hus ▸ .nil⟩
      cases hd
      rfl
  | cons c cs ih =>
      rw [Plain, List.forall_mem_cons] at h
      rw [units_cons]
      constructor
      · intro hd
        -- The first character is plain, so it is no backslash and begins no escape.
        cases hd with
        | char _ _ vs _ hrest => rw [(ih vs h.2).mp hrest]
        | escape e rest => exact absurd (by decide) h.1
      · rintro rfl
        exact .char c cs _ h.1 ((ih _ h.2).mpr rfl)

/-- A body stands for itself only if it is plain. -/
theorem denotes_self_iff (cs : List Char) : Denotes cs (units cs) ↔ Plain cs :=
  ⟨fun h => (length_denotes cs _ h).2 rfl, fun h => (denotes_plain_iff cs _ h).mpr rfl⟩

end Script

end RunReport
