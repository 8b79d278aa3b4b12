import Mathlib.Algebra.Group.Int.Defs
import Mathlib.Data.List.TakeWhile
import RunReport.Number.RealText
import RunReport.Proofs.Numeral
import RunReport.Store.CsvRecords
import RunReport.Store.JsonRecords

/-!
# Texts of Statuses

What a text says a status is, in a table and anywhere else.

In JSON a text is a text, and `Status.ofText` has the last word on it. A cell of a table is first
taken for whatever it looks like, and a cell that looks like a truth value or like a number that no
status has is no status at all. `Status.IsMistaken` describes these cells, and all others say what
the text says, `ofCell?_eq`. The only other texts that look like something else are integers of 32
bits, and there the two readings agree since a code is read out of a text as well.

An integer can be written in many ways. All of them name its status: blanks around it are cut off
before a text is read, and a number with a blank in it does not look like one in a table.

## Main definitions

* `Numeral.Writes`: A text that writes an integer in decimal.
* `Status.IsMistaken`: A cell that is taken for something that is no status.
* `Status.SaidBy`: A JSON value that says what a text says.

## Theorems

* `Text.trim_append`: Blanks around a text without blanks are cut off.
* `Numeral.integer?_trim`: A text that writes an integer reads back as it.
* `Binary64.isBlank_of_mem`: A text that looks like a number has no blanks.
* `Status.ofText_of_integer?`: A text that is an integer names its status.
* `Status.ofCell?_eq`: What a cell says.
* `Status.ofText_of_writes`, `Status.not_isMistaken_of_writes`: All writings of an integer name its
  status, and none of them is mistaken.
* `Status.ofJson?_of_saidBy`: A JSON value gives the status of the text that it says.
-/

namespace RunReport

/-! ### Blanks -/

/-- Only the blanks around a text are cut off. -/
theorem Text.trim_append (front solid back : List Char) (hfront : ∀ c ∈ front, isBlank c)
    (hback : ∀ c ∈ back, isBlank c) (hsolid : ∀ c ∈ solid, isBlank c = false) :
    trim (front ++ solid ++ back) = solid := by
  -- Blanks are dropped up to the first character that is none, if there is one.
  have hstays : ∀ cs more : List Char, (∀ c ∈ cs, isBlank c = false) → (∀ c ∈ more, isBlank c) →
      ((cs ++ more).dropWhile isBlank = cs ++ more ∧ cs ≠ []) ∨
        ((cs ++ more).dropWhile isBlank = [] ∧ cs = []) := by
    intro cs more hcs hmore
    cases cs with
    | nil => exact .inr ⟨List.dropWhile_eq_nil_iff.mpr hmore, rfl⟩
    | cons c cs =>
        refine .inl ⟨?_, List.cons_ne_nil _ _⟩
        rw [List.cons_append, List.dropWhile_cons, hcs c List.mem_cons_self]
        rfl
  have hstart : trimStart (front ++ solid ++ back) = (solid ++ back).dropWhile isBlank := by
    rw [trimStart, List.append_assoc, List.dropWhile_append_of_pos hfront]
  rw [trim, hstart, trimEnd]
  rcases hstays solid back hsolid hback with ⟨hdrop, -⟩ | ⟨hdrop, hnil⟩
  · rw [hdrop, List.reverse_append,
      List.dropWhile_append_of_pos fun c hc => hback c (List.mem_reverse.mp hc)]
    have hreverse := hstays solid.reverse [] (fun c hc => hsolid c (List.mem_reverse.mp hc))
      (by simp)
    rw [List.append_nil] at hreverse
    rcases hreverse with ⟨hdrop, -⟩ | ⟨hdrop, hnil⟩
    · rw [hdrop, List.reverse_reverse]
    · rw [hdrop, List.reverse_eq_nil_iff.mp hnil]
      rfl
  · rw [hdrop, hnil]
    rfl

/-! ### Integers -/

namespace Numeral

/-- A character of a text that writes an integer. -/
def IsMark (c : Char) : Prop :=
  c.isDigit ∨ c = '-' ∨ c = '+'

theorem isBlank_of_isMark (c : Char) (h : IsMark c) : Text.isBlank c = false := by
  rcases h with h | rfl | rfl
  · exact isBlank_of_isDigit c h
  · rfl
  · rfl

/-- Digits and signs are no letters. -/
theorem toUpper_of_isMark (c : Char) (h : IsMark c) : c.toUpper = c := by
  rcases h with h | rfl | rfl
  · rw [isDigit_iff] at h
    have hlow : ¬97 ≤ c.toNat := by omega
    exact dif_neg fun hc => hlow hc.1
  · rfl
  · rfl

/-- What has a value is made of digits. -/
theorem isDigit_of_valueOf? (cs : List Char) (n : Nat) (h : valueOf? cs = some n) :
    ∀ c ∈ cs, c.isDigit := by
  unfold valueOf? at h
  split at h
  · exact absurd h (by simp)
  · next hcond =>
      simp only [Bool.or_eq_true, Bool.not_eq_true', not_or, Bool.not_eq_false] at hcond
      exact List.all_eq_true.mp hcond.2

/-- What is an integer is made of digits and signs. -/
theorem isMark_of_integer? (bits : Nat) (cs : List Char) (n : Int)
    (h : integer? bits cs = some n) : ∀ c ∈ cs, IsMark c := by
  -- A minus takes another way through the reader than a plus, so both signs are looked at.
  have hplus : ∀ cs : List Char, (∀ c ∈ withoutPlus cs, c.isDigit) → ∀ c ∈ cs, IsMark c := by
    intro cs hcs c hc
    unfold withoutPlus at hcs
    split at hcs
    · rcases List.mem_cons.mp hc with rfl | hc
      · exact .inr (.inr rfl)
      · exact .inl (hcs c hc)
    · exact .inl (hcs c hc)
  unfold integer? at h
  split at h
  · next cs =>
      rw [Option.map_eq_some_iff] at h
      rcases h with ⟨i, hi, -⟩
      rcases Option.bind_eq_some_iff.mp hi with ⟨m, hm, -⟩
      have hdigits := isDigit_of_valueOf? cs m (Option.eq_some_of_filter_eq_some hm)
      intro c hc
      rcases List.mem_cons.mp hc with rfl | hc
      · exact .inr (.inl rfl)
      · exact .inl (hdigits c hc)
  · rw [Option.map_eq_some_iff] at h
    rcases h with ⟨m, hm, -⟩
    exact hplus cs (isDigit_of_valueOf? _ m (Option.eq_some_of_filter_eq_some hm))

/-- The signs that may stand in front of the digits of an integer. -/
def IsSignOf (n : Int) (sign : List Char) : Prop :=
  (sign = ['-'] ∧ n ≤ 0) ∨ ((sign = [] ∨ sign = ['+']) ∧ 0 ≤ n)

/-- A text writes an integer in decimal: blanks, a sign, zeros, the digits, and blanks again. -/
def Writes (n : Int) (cs : List Char) : Prop :=
  ∃ front sign zeros back, (∀ c ∈ front, Text.isBlank c) ∧ (∀ c ∈ back, Text.isBlank c) ∧
    IsSignOf n sign ∧
    cs = front ++ (sign ++ (List.replicate zeros '0' ++ decimal n.natAbs)) ++ back

theorem valueOf?_zeros (zeros n : Nat) :
    valueOf? (List.replicate zeros '0' ++ decimal n) = some n := by
  have hall : (List.replicate zeros '0' ++ decimal n).all Char.isDigit :=
    List.all_eq_true.mpr (isDigit_of_mem_zeros zeros n)
  have hne : (List.replicate zeros '0' ++ decimal n).isEmpty = false :=
    List.isEmpty_eq_false_iff.mpr (List.append_ne_nil_of_right_ne_nil _ (decimal_ne_nil n))
  rw [valueOf?, hall, hne, accumulate_zeros, accumulate_decimal]
  rfl

/-- A sign and digits read back, whether the sign is needed or not. -/
theorem integer?_sign (bits : Nat) (n : Int) (sign ds : List Char) (hsign : IsSignOf n sign)
    (hdigits : ∀ c ∈ ds, c.isDigit) (hvalue : valueOf? ds = some n.natAbs)
    (hlow : -(2 ^ (bits - 1) : Int) ≤ n) (hhigh : n < 2 ^ (bits - 1)) :
    integer? bits (sign ++ ds) = some n := by
  have hpow : ((Nat.pow 2 (bits - 1) : Nat) : Int) = 2 ^ (bits - 1) :=
    Int.natCast_pow 2 (bits - 1)
  have hunsigned : 0 ≤ n → ((valueOf? ds).filter (· < Nat.pow 2 (bits - 1))).map Int.ofNat
      = some n := by
    intro hn
    have hlt : n.natAbs < Nat.pow 2 (bits - 1) := by omega
    rw [hvalue, Option.filter_some, if_pos (decide_eq_true hlt), Option.map_some]
    exact congrArg some (Int.natAbs_of_nonneg hn)
  rcases hsign with ⟨rfl, hn⟩ | ⟨rfl | rfl, hn⟩
  · have hle : n.natAbs ≤ Nat.pow 2 (bits - 1) := by omega
    change Option.map _ (((valueOf? ds).filter (· ≤ Nat.pow 2 (bits - 1))).bind _) = some n
    rw [hvalue, Option.filter_some, if_pos (decide_eq_true hle)]
    exact congrArg some (show -(n.natAbs : Int) = n by omega)
  · -- The first digit is no sign.
    rw [List.nil_append]
    cases ds with
    | nil => exact absurd hvalue (by simp [valueOf?])
    | cons d ds =>
        have hd := hdigits d List.mem_cons_self
        have hminus : d ≠ '-' := by
          rintro rfl
          exact absurd hd (by decide)
        have hplus : d ≠ '+' := by
          rintro rfl
          exact absurd hd (by decide)
        have hsame : withoutPlus (d :: ds) = d :: ds := by
          unfold withoutPlus
          split
          · next heq => exact absurd (List.cons.inj heq).1 hplus
          · rfl
        unfold integer?
        split
        · next heq => exact absurd (List.cons.inj heq).1 hminus
        · rw [natural?, hsame]
          exact hunsigned hn
  · exact hunsigned hn

/-- A text that writes an integer reads back as it once the blanks are cut off. -/
theorem integer?_trim (bits : Nat) (n : Int) (cs : List Char) (h : Writes n cs)
    (hlow : -(2 ^ (bits - 1) : Int) ≤ n) (hhigh : n < 2 ^ (bits - 1)) :
    integer? bits (Text.trim cs) = some n := by
  rcases h with ⟨front, sign, zeros, back, hfront, hback, hsign, rfl⟩
  have hread := integer?_sign bits n sign _ hsign (isDigit_of_mem_zeros zeros n.natAbs)
    (valueOf?_zeros zeros n.natAbs) hlow hhigh
  rw [Text.trim_append front _ back hfront hback fun c hc =>
    isBlank_of_isMark c (isMark_of_integer? bits _ n hread c hc)]
  exact hread

end Numeral

/-! ### Numbers with a fraction -/

namespace Binary64

/-- Small letters do not make blanks. -/
theorem isBlank_toLower (c : Char) (h : Text.isBlank c) : c.toLower = c := by
  simp only [Text.isBlank, Bool.or_eq_true, Bool.and_eq_true, decide_eq_true_eq, beq_iff_eq] at h
  have hlow : ¬(65 ≤ c.toNat ∧ c.toNat ≤ 90) := by omega
  exact dif_neg hlow

/-- A word has no blanks, in any case of its letters. -/
theorem isBlank_of_word (cs : List Char) (word : String)
    (hword : (word.toList.all fun c => !Text.isBlank c) = true)
    (h : String.ofList (cs.map Char.toLower) = word) : ∀ c ∈ cs, Text.isBlank c = false := by
  intro c hc
  have hmem : c.toLower ∈ word.toList := by
    rw [← h, String.toList_ofList]
    exact List.mem_map_of_mem hc
  refine Bool.eq_false_iff.mpr fun hblank => ?_
  rw [isBlank_toLower c hblank] at hmem
  have hno := List.all_eq_true.mp hword c hmem
  rw [hblank] at hno
  exact absurd hno (by simp)

/-- There are no blanks in a sign. -/
theorem isBlank_of_sign (cs : List Char) (h : ∀ c ∈ (sign cs).2, Text.isBlank c = false) :
    ∀ c ∈ cs, Text.isBlank c = false := by
  intro c hc
  unfold sign at h
  split at h
  · rcases List.mem_cons.mp hc with rfl | hc
    · rfl
    · exact h c hc
  · rcases List.mem_cons.mp hc with rfl | hc
    · rfl
    · exact h c hc
  · exact h c hc

theorem isBlank_of_exponent? (cs : List Char) (h : (exponent? cs).isSome) :
    ∀ c ∈ cs, Text.isBlank c = false := by
  cases cs with
  | nil => exact fun c hc => absurd hc List.not_mem_nil
  | cons e cs =>
      rw [exponent?] at h
      split at h
      · next he =>
          rw [Option.isSome_map, Option.isSome_iff_exists] at h
          rcases h with ⟨i, hi⟩
          rcases Option.bind_eq_some_iff.mp hi with ⟨n, hn, -⟩
          have hdigits := Numeral.isDigit_of_valueOf? _ n hn
          have hrest := isBlank_of_sign cs fun c hc =>
            Numeral.isBlank_of_isDigit c (hdigits c hc)
          intro c hc
          rcases List.mem_cons.mp hc with rfl | hc
          · rcases he with rfl | rfl
            · rfl
            · rfl
          · exact hrest c hc
      · exact absurd h (by simp)

/-- Digits that a text starts with have no blanks, so blanks are in what follows them. -/
theorem isBlank_of_digits (cs : List Char)
    (h : ∀ c ∈ cs.dropWhile Char.isDigit, Text.isBlank c = false) :
    ∀ c ∈ cs, Text.isBlank c = false := by
  intro c hc
  rw [← List.takeWhile_append_dropWhile (p := Char.isDigit) (l := cs), List.mem_append] at hc
  rcases hc with hc | hc
  · exact Numeral.isBlank_of_isDigit c (List.mem_takeWhile_imp hc)
  · exact h c hc

theorem isBlank_of_decimal? (negative : Bool) (cs : List Char)
    (h : (decimal? negative cs).isSome) : ∀ c ∈ cs, Text.isBlank c = false := by
  have hexponent : (exponent? (fraction (cs.dropWhile Char.isDigit)).2).isSome := by
    rw [decimal?] at h
    simp only at h
    split at h
    · exact absurd h (by simp)
    · rwa [Option.isSome_map] at h
  have hrest := isBlank_of_exponent? _ hexponent
  refine isBlank_of_digits cs ?_
  generalize cs.dropWhile Char.isDigit = rest at hrest
  unfold fraction at hrest
  split at hrest
  · intro c hc
    rcases List.mem_cons.mp hc with rfl | hc
    · rfl
    · exact isBlank_of_digits _ hrest c hc
  · exact hrest

/-- A text that looks like a number has no blanks. -/
theorem isBlank_of_mem (cs : List Char) (h : (read? cs).isSome) :
    ∀ c ∈ cs, Text.isBlank c = false := by
  refine isBlank_of_sign cs ?_
  unfold read? at h
  simp only at h
  split at h
  · next hword =>
      rcases hword with hword | hword
      · exact isBlank_of_word _ "inf" rfl hword
      · exact isBlank_of_word _ "infinity" rfl hword
  · split at h
    · next hword => exact isBlank_of_word _ "nan" rfl hword
    · exact isBlank_of_decimal? _ _ h

end Binary64

namespace Status

/-! ### Texts and cells -/

/-- A text that is an integer once its blanks are cut off names the status of that code. -/
theorem ofText_of_integer? (s : String) (code : Int)
    (h : Numeral.integer? 32 (Text.trim s.toList) = some code) : ofText s = ofCode code := by
  have hmarks := Numeral.isMark_of_integer? 32 _ code h
  have hname : (Text.trim s.toList).map Char.toUpper = Text.trim s.toList := by
    have hmap := List.map_congr_left fun c hc => Numeral.toUpper_of_isMark c (hmarks c hc)
    rw [hmap, List.map_id']
  -- Labels have letters.
  have hletters : (labelled.all fun status => status.label.toList.any fun c =>
      !(c.isDigit || c = '-' || c = '+')) = true := rfl
  have hnone : labelled.find? (·.label.toList = Text.trim s.toList) = none := by
    refine List.find?_eq_none.mpr fun status hstatus heq => ?_
    rcases List.any_eq_true.mp (List.all_eq_true.mp hletters status hstatus) with ⟨c, hc, hno⟩
    have hmark := hmarks c (of_decide_eq_true heq ▸ hc)
    simp only [Bool.not_eq_true', Bool.or_eq_false_iff, decide_eq_false_iff_not] at hno
    rcases hmark with hdigit | rfl | rfl
    · exact absurd hdigit (by simp [hno.1.1])
    · exact hno.1.2 rfl
    · exact hno.2 rfl
  rw [ofText]
  simp only [hname, hnone, h, Option.map_some, Option.getD_some]

/-- A cell that is taken for something that is no status: a truth value, or a number that is no
    integer of 32 bits. -/
def IsMistaken (cell : String) : Prop :=
  cell = "true" ∨ cell = "false" ∨
    (Numeral.integer? 32 cell.toList = none ∧ (Binary64.read? cell.toList).isSome)

instance (cell : String) : Decidable (IsMistaken cell) :=
  inferInstanceAs (Decidable (_ ∨ _ ∨ _))

/-- An integer has no blanks, so there is nothing to cut off. -/
theorem trim_of_integer? (cs : List Char) (code : Int)
    (h : Numeral.integer? 32 cs = some code) : Text.trim cs = cs := by
  have htrim := Text.trim_append [] cs [] (by simp) (by simp) fun c hc =>
    Numeral.isBlank_of_isMark c (Numeral.isMark_of_integer? 32 cs code h c hc)
  rwa [List.nil_append, List.append_nil] at htrim

/-- A cell says what the text says, unless it is mistaken for something else. -/
theorem ofCell?_eq (cell : String) :
    ofCell? cell = if IsMistaken cell then none else some (ofText cell) := by
  unfold ofCell?
  by_cases htruth : cell = "true" ∨ cell = "false"
  · have hmistaken : IsMistaken cell := htruth.elim .inl fun h => .inr (.inl h)
    rw [if_pos htruth, if_pos hmistaken]
  · rw [if_neg htruth]
    cases hinteger : Numeral.integer? 32 cell.toList with
    | some code =>
        have hsound : ¬IsMistaken cell := by
          rintro (h | h | ⟨h, -⟩)
          · exact htruth (.inl h)
          · exact htruth (.inr h)
          · exact absurd (hinteger.symm.trans h) (by simp)
        have htrim := trim_of_integer? _ code hinteger
        rw [if_neg hsound, ofText_of_integer? cell code (by rw [htrim, hinteger])]
    | none =>
        -- What is neither a truth value nor an integer is mistaken only for a fraction.
        have hiff : IsMistaken cell ↔ (Binary64.read? cell.toList).isSome := by
          simp only [IsMistaken, hinteger, true_and]
          exact ⟨fun h => h.elim (absurd · (htruth ∘ .inl))
            (·.elim (absurd · (htruth ∘ .inr)) id), fun h => .inr (.inr h)⟩
        simp only [hiff]

/-! ### Writings of a code -/

/-- The integers that a code may be. -/
def IsCode (n : Int) : Prop :=
  -(2 ^ 31 : Int) ≤ n ∧ n < 2 ^ 31

/-- Every writing of a code names its status. -/
theorem ofText_of_writes (n : Int) (s : String) (hcode : IsCode n)
    (hwrites : Numeral.Writes n s.toList) : ofText s = ofCode n :=
  ofText_of_integer? s n (Numeral.integer?_trim 32 n _ hwrites hcode.1 hcode.2)

/-- No writing of a code is mistaken: with blanks around it does not look like a number at all. -/
theorem not_isMistaken_of_writes (n : Int) (s : String) (hcode : IsCode n)
    (hwrites : Numeral.Writes n s.toList) : ¬IsMistaken s := by
  have hread := Numeral.integer?_trim 32 n _ hwrites hcode.1 hcode.2
  rintro (rfl | rfl | ⟨hnone, hreal⟩)
  · have hword : Numeral.integer? 32 (Text.trim "true".toList) = none := by decide
    exact absurd (hread.symm.trans hword) (by simp)
  · have hword : Numeral.integer? 32 (Text.trim "false".toList) = none := by decide
    exact absurd (hread.symm.trans hword) (by simp)
  · have htrim := Text.trim_append [] s.toList [] (by simp) (by simp)
      (Binary64.isBlank_of_mem _ hreal)
    rw [List.nil_append, List.append_nil] at htrim
    rw [htrim, hnone] at hread
    exact absurd hread (by simp)

/-- A JSON value says what a text says: it is that text, or the code that the text writes. -/
def SaidBy (s : String) (v : Json) : Prop :=
  v = .string s ∨ ∃ n, IsCode n ∧ Numeral.Writes n s.toList ∧ v.int? = some n

/-- A JSON value gives the status of the text that it says. -/
theorem ofJson?_of_saidBy (s : String) (v : Json) (h : SaidBy s v) :
    ofJson? v = some (ofText s) := by
  rcases h with rfl | ⟨n, hcode, hwrites, hv⟩
  · rfl
  · have hnumber : ofJson? v
        = (v.int?.filter fun i => -2147483648 ≤ i && i < 2147483648).map ofCode := by
      cases v with
      | string t => exact absurd hv (by simp [Json.int?])
      | _ => rfl
    have hrange : (decide (-2147483648 ≤ n) && decide (n < 2147483648)) = true := by
      rw [Bool.and_eq_true, decide_eq_true_eq, decide_eq_true_eq]
      exact hcode
    rw [hnumber, hv, Option.filter_some, if_pos hrange, Option.map_some,
      ofText_of_writes n s hcode hwrites]

end Status

end RunReport
