import RunReport.Text.Utf8

/-!
# Characters Read Back from Their Bytes

What `decodeLossy` makes of the bytes that `encode` writes.

The reader tells the width of a character by ranges of its first byte and checks the others, and
the second of them by the first as well; the writer divides the number of the character. The two
fit together because the ranges leave out just what the divisions cannot give: spellings that are
too long, surrogates, and numbers above the last character. `step_one` to `step_four` say for each
width what the reader makes of bytes within the ranges, and `step_encodeChar` that the bytes of a
character are within them.

## Theorems

* `isTail_iff`, `secondFits_iff`: The checks of the reader as bounds on numbers.
* `step_one`, `step_two`, `step_three`, `step_four`: The character of one to four bytes.
* `step_encodeChar`: A character is read back from its bytes, whatever comes after them.
* `decodeLossy_encode`, `decode?_encode`: A text is read back from its bytes.
* `mem_of_mem_encode`: The bytes of ASCII are those of characters of ASCII.
* `encode_append`: The bytes of two texts.
-/

namespace RunReport

namespace Utf8

/-! ### The checks of the reader -/

theorem isTail_iff (b : UInt8) : isTail b ↔ 0x80 ≤ b.toNat ∧ b.toNat ≤ 0xBF := by
  simp only [isTail, Bool.and_eq_true, decide_eq_true_eq, UInt8.le_iff_toNat_le,
    UInt8.reduceToNat]

/-- A second byte has to go on a character, and four first bytes leave less room for it. -/
theorem secondFits_iff (a b : UInt8) : secondFits a b ↔
    0x80 ≤ b.toNat ∧ b.toNat ≤ 0xBF ∧
      (a.toNat = 0xE0 → 0xA0 ≤ b.toNat) ∧ (a.toNat = 0xED → b.toNat ≤ 0x9F) ∧
      (a.toNat = 0xF0 → 0x90 ≤ b.toNat) ∧ (a.toNat = 0xF4 → b.toNat ≤ 0x8F) := by
  simp only [secondFits, beq_iff_eq, ← UInt8.toNat_inj, UInt8.reduceToNat]
  repeat' split
  all_goals
    simp only [isTail, Bool.and_eq_true, decide_eq_true_eq, UInt8.le_iff_toNat_le,
      UInt8.reduceToNat]
    omega

theorem step_one (a : UInt8) (rest : List UInt8) (ha : a.toNat < 0x80) :
    step a rest = (some (Char.ofNat a.toNat), 0) := by
  simp only [step.eq_def, UInt8.lt_iff_toNat_lt, UInt8.reduceToNat]
  rw [if_pos ha]

theorem step_two (a b : UInt8) (rest : List UInt8) (ha : 0xC2 ≤ a.toNat ∧ a.toNat ≤ 0xDF)
    (hb : isTail b) :
    step a (b :: rest) = (some (Char.ofNat (a.toNat % 32 * 64 + tailValue b)), 1) := by
  simp only [step.eq_def, UInt8.lt_iff_toNat_lt, UInt8.le_iff_toNat_le, UInt8.reduceToNat,
    Bool.and_eq_true, decide_eq_true_eq]
  rw [if_neg (by omega), if_pos ha, if_pos hb]

theorem step_three (a b c : UInt8) (rest : List UInt8) (ha : 0xE0 ≤ a.toNat ∧ a.toNat ≤ 0xEF)
    (hb : secondFits a b) (hc : isTail c) :
    step a (b :: c :: rest) = (some (Char.ofNat
      (a.toNat % 16 * 4096 + tailValue b * 64 + tailValue c)), 2) := by
  simp only [step.eq_def, UInt8.lt_iff_toNat_lt, UInt8.le_iff_toNat_le, UInt8.reduceToNat,
    Bool.and_eq_true, decide_eq_true_eq]
  rw [if_neg (by omega), if_neg (by omega), if_pos ha, if_pos hb, if_pos hc]

theorem step_four (a b c d : UInt8) (rest : List UInt8)
    (ha : 0xF0 ≤ a.toNat ∧ a.toNat ≤ 0xF4) (hb : secondFits a b) (hc : isTail c) (hd : isTail d) :
    step a (b :: c :: d :: rest) = (some (Char.ofNat
      (a.toNat % 8 * 262144 + tailValue b * 4096 + tailValue c * 64 + tailValue d)), 3) := by
  simp only [step.eq_def, UInt8.lt_iff_toNat_lt, UInt8.le_iff_toNat_le, UInt8.reduceToNat,
    Bool.and_eq_true, decide_eq_true_eq]
  rw [if_neg (by omega), if_neg (by omega), if_neg (by omega), if_pos ha, if_pos hb, if_pos hc,
    if_pos hd]

/-! ### Reading back -/

/-- A byte keeps a number below 256. -/
theorem toNat_toUInt8 (n : Nat) (h : n < 256) : n.toUInt8.toNat = n :=
  UInt8.toNat_ofNat_of_lt h

/-- A character is read back from its bytes, whatever comes after them. -/
theorem step_encodeChar (c : Char) (more : List UInt8) :
    ∃ b bs, encodeChar c = b :: bs ∧ step b (bs ++ more) = (some c, bs.length) := by
  have hvalid : c.toNat < 0xD800 ∨ (0xDFFF < c.toNat ∧ c.toNat < 0x110000) := c.valid
  have hchar : ∀ n, n = c.toNat → Char.ofNat n = c := fun n h => h ▸ Char.ofNat_toNat c
  have hlast := toNat_toUInt8 (0x80 + c.toNat % 64) (by omega)
  have hmiddle := toNat_toUInt8 (0x80 + c.toNat / 64 % 64) (by omega)
  unfold encodeChar
  by_cases h1 : c.toNat < 0x80
  · rw [if_pos h1]
    refine ⟨_, _, rfl, ?_⟩
    have ha := toNat_toUInt8 c.toNat (by omega)
    rw [step_one _ _ (by omega), hchar _ ha]
    rfl
  rw [if_neg h1]
  by_cases h2 : c.toNat < 0x800
  · rw [if_pos h2]
    refine ⟨_, _, rfl, ?_⟩
    have ha := toNat_toUInt8 (0xC0 + c.toNat / 64) (by omega)
    rw [List.cons_append, step_two _ _ _ (by omega) ((isTail_iff _).mpr (by omega)), tailValue,
      ha, hlast, hchar _ (by omega)]
    rfl
  rw [if_neg h2]
  by_cases h3 : c.toNat < 0x10000
  · -- Second bytes of E0 and ED leave out short spellings and surrogates.
    rw [if_pos h3]
    refine ⟨_, _, rfl, ?_⟩
    have ha := toNat_toUInt8 (0xE0 + c.toNat / 4096) (by omega)
    rw [List.cons_append, List.cons_append, step_three _ _ _ _ (by omega)
      ((secondFits_iff _ _).mpr (by omega)) ((isTail_iff _).mpr (by omega)), tailValue, tailValue,
      ha, hmiddle, hlast, hchar _ (by omega)]
    rfl
  · rw [if_neg h3]
    refine ⟨_, _, rfl, ?_⟩
    have ha := toNat_toUInt8 (0xF0 + c.toNat / 262144) (by omega)
    have hb := toNat_toUInt8 (0x80 + c.toNat / 4096 % 64) (by omega)
    rw [List.cons_append, List.cons_append, List.cons_append, step_four _ _ _ _ _ (by omega)
      ((secondFits_iff _ _).mpr (by omega)) ((isTail_iff _).mpr (by omega))
      ((isTail_iff _).mpr (by omega)), tailValue, tailValue, tailValue, ha, hb, hmiddle, hlast,
      hchar _ (by omega)]
    rfl

/-- The bytes of a text begin with those of its first character. -/
theorem encode_cons (c : Char) (cs : List Char) :
    ∃ b bs, encode (c :: cs) = b :: (bs ++ encode cs) ∧
      step b (bs ++ encode cs) = (some c, bs.length) := by
  rcases step_encodeChar c (encode cs) with ⟨b, bs, hbytes, hstep⟩
  refine ⟨b, bs, ?_, hstep⟩
  rw [encode, List.flatMap_cons, hbytes, List.cons_append]
  rfl

/-- A text is read back from its bytes: one character after the other, by induction on the text. -/
theorem decodeLossy_encode (cs : List Char) : decodeLossy (encode cs) = cs := by
  induction cs with
  | nil => rw [encode, List.flatMap_nil, decodeLossy]
  | cons c cs ih =>
      rcases encode_cons c cs with ⟨b, bs, hbytes, hstep⟩
      rw [hbytes, decodeLossy, hstep, List.drop_left, ih]
      rfl

theorem decode?_encode (cs : List Char) : decode? (encode cs) = some cs := by
  induction cs with
  | nil => rw [encode, List.flatMap_nil, decode?]
  | cons c cs ih =>
      rcases encode_cons c cs with ⟨b, bs, hbytes, hstep⟩
      rw [hbytes, decode?, hstep]
      simp only [List.drop_left, ih, Option.map_some]

/-- The bytes of ASCII are those of characters of ASCII. -/
theorem mem_of_mem_encode (b : UInt8) (cs : List Char) (hb : b.toNat < 0x80)
    (h : b ∈ encode cs) : Char.ofNat b.toNat ∈ cs := by
  rw [encode, List.mem_flatMap] at h
  rcases h with ⟨c, hc, hmem⟩
  have hlast := toNat_toUInt8 (0x80 + c.toNat % 64) (by omega)
  have hmiddle := toNat_toUInt8 (0x80 + c.toNat / 64 % 64) (by omega)
  have hvalid : c.toNat < 0xD800 ∨ (0xDFFF < c.toNat ∧ c.toNat < 0x110000) := c.valid
  unfold encodeChar at hmem
  simp only at hmem
  split at hmem
  · rw [List.mem_singleton.mp hmem, toNat_toUInt8 _ (by omega), Char.ofNat_toNat]
    exact hc
  -- All bytes of a character outside of ASCII are too great.
  exfalso
  split at hmem
  · have ha := toNat_toUInt8 (0xC0 + c.toNat / 64) (by omega)
    simp only [List.mem_cons, List.not_mem_nil, or_false] at hmem
    rcases hmem with rfl | rfl <;> omega
  split at hmem
  · have ha := toNat_toUInt8 (0xE0 + c.toNat / 4096) (by omega)
    simp only [List.mem_cons, List.not_mem_nil, or_false] at hmem
    rcases hmem with rfl | rfl | rfl <;> omega
  · have ha := toNat_toUInt8 (0xF0 + c.toNat / 262144) (by omega)
    have hb := toNat_toUInt8 (0x80 + c.toNat / 4096 % 64) (by omega)
    simp only [List.mem_cons, List.not_mem_nil, or_false] at hmem
    rcases hmem with rfl | rfl | rfl | rfl <;> omega

theorem encode_append (as bs : List Char) : encode (as ++ bs) = encode as ++ encode bs :=
  List.flatMap_append

end Utf8

end RunReport
