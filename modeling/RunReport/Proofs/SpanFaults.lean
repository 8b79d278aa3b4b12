import RunReport.Proofs.SpanSpelling

/-!
# Spans and Their Faults

Which fault is reported of a text that is no span, and when it is the right one.

A text is read in four stages: its form, its number, its unit, its milliseconds. The first stage
that fails names the fault, so `Reported` has one case for each way to fail, and each case says that
the stages before it went well. There are five cases for four stages, because the number can fail in
two ways. It can be too large, and it can be written in digits that have no value here.

These two are told apart nowhere. The form admits the digits of every script, the number only those
of ASCII, and whatever the number does not admit is called out of range, five minutes in fullwidth
digits (`foreign_digits_misnamed`) as much as a number of thirty digits. `Apt` says which fault a
text deserves. It goes by the value that its digits have in their own script (`numberOf`), so that
being out of range is a matter of size. With ASCII digits the fault that is reported is always the
one that the text deserves. With others it is so only if the number happens to be too large as well.

## Main definitions

* `SpanText.valueAmong`: The value of a character among ranges of digits.
* `SpanText.digitValue`, `SpanText.numberOf`: The value of a digit, and of digits, of any script.
* `SpanText.Splits`: A text has the form of a span, with its digits and its word.
* `SpanText.Unnamed`: A word for no unit.
* `SpanText.Exceeds`: A number or its milliseconds are too large for 64 bits.
* `SpanText.Foreign`: Some of the digits are not of ASCII.
* `SpanText.SameKind`: Two faults are of one kind, whatever text they name.
* `SpanText.Apt`: The kind of fault that a text deserves.
* `SpanText.Reported`: The faults that are reported of a text, by the stage that fails.

## Theorems

* `valueAmong_of_find?`, `valueAmong_of_head?`: The value is the place in the range.
* `head?_decimalNumber`, `digitValue_of_ascii`, `numberOf_of_ascii`: In ASCII digits the two ways to
  take a number agree.
* `valueOf?_of_ascii`, `valueOf?_of_foreign`: Which digits have a value for the reader.
* `splits_iff`, `splits_unique`: The form in terms of the walk, which finds one only.
* `ofWord?_eq_none_iff`: Words that name no unit.
* `ofUnits_eq_error_iff`: When so many units are out of range.
* `read_of_malformed`, `read_of_refused`, `read_of_counted`: Reading, as far as a stage decides it.
* `reported_of_read`, `read_of_reported`: The fault is that of the first stage that fails.
* `not_exceeds_of_unnamed`, `apt_iff_sameKind`: A text deserves one kind of fault at most.
* `read_names_fault`: Which fault is reported of which text, and when it is the right one.
* `foreign_digits_misnamed`: Five minutes that are out of range.
-/

namespace RunReport

namespace SpanText

open Text

/-! ### Numbers in any script -/

/-- The value of a character among ranges that are made of stretches of ten, each from a zero to a
    nine. -/
def valueAmong (ranges : Unicode.Ranges) (c : Char) : Nat :=
  match ranges.find? fun r => r.1 ≤ c.toNat && c.toNat ≤ r.2 with
  | some r => (c.toNat - r.1) % 10
  | none => 0

/-- The value of a digit in its script. -/
def digitValue (c : Char) : Nat :=
  valueAmong Unicode.Category.decimalNumber c

/-- The number that digits write in base ten, whatever their scripts. -/
def numberOf (digits : List Char) : Nat :=
  Nat.ofDigits 10 (digits.reverse.map digitValue)

/-- Some of the digits are not of ASCII. -/
def Foreign (digits : List Char) : Prop :=
  ∃ c ∈ digits, c.isDigit = false

/-- The first range of digits is that of ASCII. -/
theorem head?_decimalNumber : Unicode.Category.decimalNumber.head? = some (48, 57) := by
  unfold Unicode.Category.decimalNumber Unicode.Ranges.ofText Unicode.Ranges.numbers
  rw [String.toList_ofList]
  decide +kernel

theorem valueAmong_of_find? (ranges : Unicode.Ranges) (c : Char) (r : Nat × Nat)
    (h : (ranges.find? fun r => r.1 ≤ c.toNat && c.toNat ≤ r.2) = some r) :
    valueAmong ranges c = (c.toNat - r.1) % 10 := by
  rw [valueAmong, h]

/-- Ranges that begin with the ASCII digits give them their values. -/
theorem valueAmong_of_head? (ranges : Unicode.Ranges) (c : Char) (hc : c.isDigit)
    (hhead : ranges.head? = some (48, 57)) : valueAmong ranges c = Numeral.valueOfDigit c := by
  rw [Numeral.isDigit_iff] at hc
  have hfound : (ranges.find? fun r => r.1 ≤ c.toNat && c.toNat ≤ r.2) = some (48, 57) := by
    rcases List.head?_eq_some_iff.mp hhead with ⟨rest, rfl⟩
    refine List.find?_cons_of_pos ?_
    rw [Bool.and_eq_true, decide_eq_true_eq, decide_eq_true_eq]
    exact hc
  rw [valueAmong_of_find? ranges c _ hfound, Numeral.valueOfDigit, show '0'.toNat = 48 from rfl]
  omega

theorem digitValue_of_ascii (c : Char) (h : c.isDigit) :
    digitValue c = Numeral.valueOfDigit c :=
  valueAmong_of_head? _ c h head?_decimalNumber

theorem numberOf_of_ascii (digits : List Char) (h : ∀ c ∈ digits, c.isDigit) :
    numberOf digits = Nat.ofDigits 10 (digits.reverse.map Numeral.valueOfDigit) := by
  have hmap : digits.reverse.map digitValue = digits.reverse.map Numeral.valueOfDigit :=
    List.map_congr_left fun c hc => digitValue_of_ascii c (h c (List.mem_reverse.mp hc))
  rw [numberOf, hmap]

/-- The reader gives ASCII digits the number that they write. -/
theorem valueOf?_of_ascii (digits : List Char) (hne : digits ≠ []) (h : ¬ Foreign digits) :
    Numeral.valueOf? digits = some (numberOf digits) := by
  have hascii : ∀ c ∈ digits, c.isDigit := fun c hc =>
    Bool.of_not_eq_false fun hforeign => h ⟨c, hc, hforeign⟩
  rw [Numeral.valueOf?_eq_some_iff]
  exact ⟨hne, hascii, (numberOf_of_ascii digits hascii).symm⟩

/-- The reader gives no value to digits of other scripts. -/
theorem valueOf?_of_foreign (digits : List Char) (h : Foreign digits) :
    Numeral.valueOf? digits = none := by
  rcases h with ⟨c, hc, hforeign⟩
  refine Option.eq_none_iff_forall_ne_some.mpr fun n hn => ?_
  rw [((Numeral.valueOf?_eq_some_iff digits n).mp hn).2.1 c hc] at hforeign
  cases hforeign

/-! ### Form and unit -/

/-- A text has the form of a span: digits of any scripts and a word, with blanks around them. -/
def Splits (s : String) (digits word : List Char) : Prop :=
  ∃ before between after, Pieces s.toList before digits between word after

theorem splits_iff (s : String) (digits word : List Char) :
    Splits s digits word ↔ parts? s.toList = some (digits, word) := by
  constructor
  · rintro ⟨before, between, after, h⟩
    exact parts?_of_pieces _ before digits between word after h
  · exact pieces_of_parts? _ digits word

/-- A text has one form only. -/
theorem splits_unique (s : String) (digits word digits' word' : List Char)
    (h : Splits s digits word) (h' : Splits s digits' word') : digits' = digits ∧ word' = word := by
  rw [splits_iff] at h h'
  rw [h] at h'
  exact Prod.ext_iff.mp (Option.some.inj h'.symm)

/-- A word for no unit. -/
def Unnamed (word : List Char) : Prop :=
  ∀ millis name, ¬ UnitWord (String.ofList word) millis name

theorem ofWord?_eq_none_iff (word : List Char) :
    SpanUnit.ofWord? (String.ofList word) = none ↔ Unnamed word := by
  simp only [Unnamed, unitWord_iff, Option.eq_none_iff_forall_ne_some]
  constructor
  · rintro h millis name ⟨unit, hunit, -⟩
    exact h unit hunit
  · exact fun h unit hunit => h unit.millis unit.name ⟨unit, hunit, rfl, rfl⟩

/-- So many units are out of range if their milliseconds do not fit 64 bits. -/
theorem ofUnits_eq_error_iff (count : Nat) (unit : SpanUnit) (f : SpanFault) :
    ofUnits count unit = .error f ↔
      Word.count ≤ count * unit.millis ∧ f = .outOfRange (Numeral.text count ++ unit.name) := by
  unfold ofUnits
  by_cases hlt : count * unit.millis < Word.count
  · rw [if_pos hlt]
    exact ⟨nofun, fun h => absurd hlt (Nat.not_lt_of_le h.1)⟩
  · rw [if_neg hlt, and_iff_right (Nat.le_of_not_lt hlt), Except.error.injEq]
    exact eq_comm

/-! ### Stages -/

/-- A text without the form of a span is malformed. -/
theorem read_of_malformed (s : String) (h : ∀ digits word, ¬ Splits s digits word) :
    read s = .error (.malformed s) := by
  cases hparts : parts? s.toList with
  | none => simp only [read, hparts]
  | some p => exact absurd ((splits_iff s p.1 p.2).mpr hparts) (h p.1 p.2)

/-- A number that does not fit is out of range, and so are digits without a value. -/
theorem read_of_refused (s : String) (digits word : List Char) (h : Splits s digits word)
    (hrefused : Foreign digits ∨ 2 ^ 64 ≤ numberOf digits) :
    read s = .error (.outOfRange s) := by
  rw [← Word.count_eq_pow] at hrefused
  have hvalue : (Numeral.valueOf? digits).filter (· < Word.count) = none := by
    by_cases hforeign : Foreign digits
    · rw [valueOf?_of_foreign digits hforeign, Option.filter_none]
    · have hlarge := Nat.not_lt_of_le (hrefused.resolve_left hforeign)
      rcases h with ⟨before, between, after, hpieces⟩
      rw [valueOf?_of_ascii digits hpieces.digits_ne_nil hforeign, Option.filter_some,
        if_neg (mt of_decide_eq_true hlarge)]
  simp only [read, (splits_iff s digits word).mp h, hvalue]

/-- A number that fits leaves the fault to its unit. -/
theorem read_of_counted (s : String) (digits word : List Char) (h : Splits s digits word)
    (hascii : ¬ Foreign digits) (hlt : numberOf digits < 2 ^ 64) :
    read s = match SpanUnit.ofWord? (String.ofList word) with
      | none => .error (.unknownUnit (String.ofList word))
      | some unit => ofUnits (numberOf digits) unit := by
  rw [← Word.count_eq_pow] at hlt
  have hvalue : (Numeral.valueOf? digits).filter (· < Word.count) = some (numberOf digits) := by
    rcases h with ⟨before, between, after, hpieces⟩
    rw [valueOf?_of_ascii digits hpieces.digits_ne_nil hascii, Option.filter_some,
      if_pos (decide_eq_true hlt)]
  have hparts := (splits_iff s digits word).mp h
  cases hunit : SpanUnit.ofWord? (String.ofList word) with
  | none => simp only [read, hparts, hvalue, hunit]
  | some unit => simp only [read, hparts, hvalue, hunit]

/-- The faults that are reported of a text. -/
inductive Reported (s : String) : SpanFault → Prop
  | malformed (h : ∀ digits word, ¬ Splits s digits word) : Reported s (.malformed s)
  | foreign (digits word : List Char) (h : Splits s digits word) (hforeign : Foreign digits) :
      Reported s (.outOfRange s)
  | tooLarge (digits word : List Char) (h : Splits s digits word) (hascii : ¬ Foreign digits)
      (hlarge : 2 ^ 64 ≤ numberOf digits) : Reported s (.outOfRange s)
  | unknownUnit (digits word : List Char) (h : Splits s digits word) (hascii : ¬ Foreign digits)
      (hlt : numberOf digits < 2 ^ 64) (hword : Unnamed word) :
      Reported s (.unknownUnit (String.ofList word))
  | tooLong (digits word : List Char) (millis : Nat) (name : String) (h : Splits s digits word)
      (hascii : ¬ Foreign digits) (hlt : numberOf digits < 2 ^ 64)
      (hword : UnitWord (String.ofList word) millis name)
      (hlong : 2 ^ 64 ≤ numberOf digits * millis) :
      Reported s (.outOfRange (Numeral.text (numberOf digits) ++ name))

/-- A fault comes from the first stage that fails. -/
theorem reported_of_read (s : String) (f : SpanFault) (h : read s = .error f) : Reported s f := by
  -- The stages in the order in which they are tried, each passed before the next one is looked at.
  by_cases hform : ∃ digits word, Splits s digits word
  · rcases hform with ⟨digits, word, hs⟩
    by_cases hforeign : Foreign digits
    · rw [read_of_refused s digits word hs (.inl hforeign), Except.error.injEq] at h
      exact h ▸ .foreign digits word hs hforeign
    by_cases hlt : numberOf digits < 2 ^ 64
    · rw [read_of_counted s digits word hs hforeign hlt] at h
      cases hunit : SpanUnit.ofWord? (String.ofList word) with
      | none =>
          rw [hunit] at h
          rw [← Except.error.inj h]
          exact .unknownUnit digits word hs hforeign hlt ((ofWord?_eq_none_iff word).mp hunit)
      | some unit =>
          rw [hunit] at h
          rcases (ofUnits_eq_error_iff _ unit f).mp h with ⟨hlong, rfl⟩
          exact .tooLong digits word unit.millis unit.name hs hforeign hlt
            ((unitWord_iff _ _ _).mpr ⟨unit, hunit, rfl, rfl⟩) hlong
    · have hlarge := Nat.le_of_not_lt hlt
      rw [read_of_refused s digits word hs (.inr hlarge), Except.error.injEq] at h
      exact h ▸ .tooLarge digits word hs hforeign hlarge
  · have hform' : ∀ digits word, ¬ Splits s digits word := fun digits word hs =>
      hform ⟨digits, word, hs⟩
    rw [read_of_malformed s hform', Except.error.injEq] at h
    exact h ▸ .malformed hform'

/-- A stage that fails after all before it went well is reported. -/
theorem read_of_reported (s : String) (f : SpanFault) (h : Reported s f) : read s = .error f := by
  cases h with
  | malformed h => exact read_of_malformed s h
  | foreign digits word h hforeign => exact read_of_refused s digits word h (.inl hforeign)
  | tooLarge digits word h hascii hlarge => exact read_of_refused s digits word h (.inr hlarge)
  | unknownUnit digits word h hascii hlt hword =>
      rw [read_of_counted s digits word h hascii hlt, (ofWord?_eq_none_iff word).mpr hword]
  | tooLong digits word millis name h hascii hlt hword hlong =>
      rcases (unitWord_iff _ _ _).mp hword with ⟨unit, hunit, rfl, rfl⟩
      rw [read_of_counted s digits word h hascii hlt, hunit]
      exact (ofUnits_eq_error_iff _ unit _).mpr ⟨hlong, rfl⟩

/-! ### The right fault -/

/-- Digits and a word go beyond 64 bits: the number does, or, if the word names a unit, the
    milliseconds of so many of them do. -/
def Exceeds (digits word : List Char) : Prop :=
  2 ^ 64 ≤ numberOf digits ∨
    ∃ millis name, UnitWord (String.ofList word) millis name ∧ 2 ^ 64 ≤ numberOf digits * millis

/-- A text that is no span deserves a fault of this kind. It is out of range if it has the form of
    a span and goes beyond 64 bits, it has an unknown unit if it has the form, its number fits and
    its word names no unit, and it is malformed in every other case. -/
def Apt (s : String) : SpanFault → Prop
  | .outOfRange _ => ∃ digits word, Splits s digits word ∧ Exceeds digits word
  | .unknownUnit _ =>
    ∃ digits word, Splits s digits word ∧ numberOf digits < 2 ^ 64 ∧ Unnamed word
  | .malformed _ =>
    ∀ digits word, Splits s digits word →
      ¬ Exceeds digits word ∧ ¬ (numberOf digits < 2 ^ 64 ∧ Unnamed word)

/-- Two faults are of one kind, whatever text they name. -/
def SameKind : SpanFault → SpanFault → Prop
  | .malformed _, .malformed _ => True
  | .unknownUnit _, .unknownUnit _ => True
  | .outOfRange _, .outOfRange _ => True
  | _, _ => False

theorem sameKind_refl (f : SpanFault) : SameKind f f := by
  cases f <;> trivial

/-- So many of no unit are as many as their number says. -/
theorem not_exceeds_of_unnamed (digits word : List Char) (hlt : numberOf digits < 2 ^ 64)
    (hword : Unnamed word) : ¬ Exceeds digits word := by
  rintro (hlarge | ⟨millis, name, hunit, -⟩)
  · exact Nat.not_le_of_lt hlt hlarge
  · exact hword millis name hunit

/-- A text deserves one kind of fault at most. -/
theorem apt_iff_sameKind (s : String) (f g : SpanFault) (hf : Apt s f) :
    Apt s g ↔ SameKind g f := by
  -- A text has one form, so its unit is unknown or it goes beyond 64 bits, but not both.
  have hone : ∀ word text, Apt s (.unknownUnit word) → ¬ Apt s (.outOfRange text) := by
    rintro - - ⟨digits, word, hs, hlt, hword⟩ ⟨digits', word', hs', hexceeds⟩
    rcases splits_unique s digits word digits' word' hs hs' with ⟨rfl, rfl⟩
    exact not_exceeds_of_unnamed _ _ hlt hword hexceeds
  have hform : ∀ text, Apt s (.malformed text) →
      (∀ word, ¬ Apt s (.unknownUnit word)) ∧ ∀ text', ¬ Apt s (.outOfRange text') :=
    fun text h => ⟨fun _ ⟨digits, word, hs, hunit⟩ => (h digits word hs).2 hunit,
      fun _ ⟨digits, word, hs, hexceeds⟩ => (h digits word hs).1 hexceeds⟩
  cases f with
  | malformed text =>
      cases g with
      | malformed _ => exact iff_of_true hf trivial
      | unknownUnit word => exact iff_of_false ((hform text hf).1 word) id
      | outOfRange text' => exact iff_of_false ((hform text hf).2 text') id
  | unknownUnit word =>
      cases g with
      | malformed text => exact iff_of_false (fun hg => (hform text hg).1 word hf) id
      | unknownUnit _ => exact iff_of_true hf trivial
      | outOfRange text => exact iff_of_false (hone word text hf) id
  | outOfRange text' =>
      cases g with
      | malformed text => exact iff_of_false (fun hg => (hform text hg).2 text' hf) id
      | unknownUnit word => exact iff_of_false (fun hg => hone word text' hg hf) id
      | outOfRange _ => exact iff_of_true hf trivial

/-- What is reported of a text is the fault of the first stage that fails. Its kind is the one that
    the text deserves, and no other, exactly if the text does not have digits of other scripts in a
    number that is within range. -/
theorem read_names_fault (s : String) :
    (∀ f, read s = .error f ↔ Reported s f) ∧
    ((∀ f, read s = .error f → ∀ g, Apt s g ↔ SameKind g f) ↔
      ∀ digits word, Splits s digits word → Foreign digits → Exceeds digits word) := by
  refine ⟨fun f => ⟨reported_of_read s f, read_of_reported s f⟩, ?_, ?_⟩
  · -- Foreign digits are called out of range, so this has to be what the text deserves.
    intro hapt digits word hs hforeign
    have hread := read_of_refused s digits word hs (.inl hforeign)
    rcases (hapt _ hread _).mpr (sameKind_refl _) with ⟨digits', word', hs', hexceeds⟩
    rcases splits_unique s digits word digits' word' hs hs' with ⟨rfl, rfl⟩
    exact hexceeds
  · -- Only the case of foreign digits does not say by itself what the text deserves.
    intro hforeigners f hf g
    refine apt_iff_sameKind s f g ?_
    cases reported_of_read s f hf with
    | malformed h => exact fun digits word hs => absurd hs (h digits word)
    | foreign digits word h hforeign => exact ⟨digits, word, h, hforeigners digits word h hforeign⟩
    | tooLarge digits word h hascii hlarge => exact ⟨digits, word, h, .inl hlarge⟩
    | unknownUnit digits word h hascii hlt hword => exact ⟨digits, word, h, hlt, hword⟩
    | tooLong digits word millis name h hascii hlt hword hlong =>
        exact ⟨digits, word, h, .inr ⟨millis, name, hword, hlong⟩⟩

/-- Five minutes in a fullwidth digit are said to be out of range. They deserve to be malformed,
    since the text is no span, its number fits and its word names a unit. -/
theorem foreign_digits_misnamed :
    read "\uff15m" = .error (.outOfRange "\uff15m") ∧
    Splits "\uff15m" ['\uff15'] ['m'] ∧ numberOf ['\uff15'] = 5 ∧
    ¬ Apt "\uff15m" (.outOfRange "\uff15m") ∧ Apt "\uff15m" (.malformed "\uff15m") := by
  -- The table is large, so the range is looked up once and all that is known of the digit is read
  -- off it.
  have hrange : Unicode.Category.decimalNumber.find?
      (fun r => r.1 ≤ '\uff15'.toNat && '\uff15'.toNat ≤ r.2) = some (0xff10, 0xff19) := by
    unfold Unicode.Category.decimalNumber Unicode.Ranges.ofText Unicode.Ranges.numbers
    rw [String.toList_ofList]
    decide +kernel
  have hdigit : isDigit '\uff15' :=
    List.any_eq_true.mpr ⟨_, List.mem_of_find?_eq_some hrange, by decide⟩
  have hvalue : digitValue '\uff15' = 5 := valueAmong_of_find? _ _ _ hrange
  have hsplits : Splits "\uff15m" ['\uff15'] ['m'] :=
    ⟨[], [], [], {
      text_eq := rfl
      isBlank_before := List.forall_mem_nil _
      isDigit_digits := List.forall_mem_singleton.mpr hdigit
      digits_ne_nil := List.cons_ne_nil _ _
      isBlank_between := List.forall_mem_nil _
      isLetter_word := List.forall_mem_singleton.mpr rfl
      word_ne_nil := List.cons_ne_nil _ _
      isBlank_after := List.forall_mem_nil _ }⟩
  have hnumber : numberOf ['\uff15'] = 5 := by
    rw [numberOf, List.reverse_singleton, List.map_singleton, hvalue]
    rfl
  have hfits : ¬ Exceeds ['\uff15'] ['m'] := by
    rw [Exceeds, hnumber]
    rintro (hlarge | ⟨millis, name, hunit, hlong⟩)
    · exact absurd hlarge (by decide)
    · cases hunit <;> exact absurd hlong (by decide)
  have hnamed : ¬ Unnamed ['m'] := fun h => h _ _ (.minute (by decide))
  refine ⟨read_of_refused _ _ _ hsplits (.inl ⟨_, List.mem_singleton_self _, by decide⟩), hsplits,
    hnumber, ?_, ?_⟩
  · rintro ⟨digits, word, hs, hexceeds⟩
    rcases splits_unique _ _ _ digits word hsplits hs with ⟨rfl, rfl⟩
    exact hfits hexceeds
  · intro digits word hs
    rcases splits_unique _ _ _ digits word hsplits hs with ⟨rfl, rfl⟩
    exact ⟨hfits, fun h => hnamed h.2⟩

end SpanText

end RunReport
