import Mathlib.Data.Bool.AllAny
import Mathlib.Data.List.Induction
import Mathlib.Data.List.TakeWhile
import Mathlib.Data.Nat.Digits.Defs
import RunReport.Proofs.Numeral
import RunReport.Time.SpanText

/-!
# Spans and Their Spellings

Which texts are read as spans, and as which.

`SpanText.read` goes over a text from the left. It cuts off blanks, takes digits as far as they go,
cuts off blanks again and takes letters as far as they go. By itself this says little about the
texts that it accepts: if some blank counted as a digit, or some digit as a letter, the walk would
take too much and refuse a text that can be cut in another place. No character is of two of these
kinds, so a text can be cut in one way only, and the walk finds it (`parts?_of_pieces`).

The form allows the digits of every script, but only those of ASCII have a value. A text with others
has the form of a span and is refused for its number, so the digits of a spelling are those of ASCII
(`Spells`). Their value may be of any size. It is compared with the limit before a word is made of
it, and so are the milliseconds that it stands for, so nothing is wrapped around.

What a spelling is does not refer to the tables of the reader. The fifteen words, what they stand
for and the blanks are listed here (`UnitWord`, `blanks`), and the reader's tables are shown to
agree.

## Main definitions

* `SpanText.blanks`: The numbers of the blanks.
* `SpanText.Pieces`: A text as digits and a word, with blanks around them.
* `SpanText.UnitWord`: A word for a unit, with its milliseconds.
* `SpanText.Spells`: A text spells so many units of time.

## Theorems

* `cut_stretch`: A stretch of one kind is cut off where something of another kind follows.
* `accumulate_eq_ofDigits`, `valueOf?_eq_some_iff`: Digits write a number in base ten.
* `count_eq_pow`: How many numbers have 64 bits.
* `nanos_ofMillis`, `eq_of_nanos_eq`: A span of so many milliseconds, and that it is the only one.
* `ofWord?_eq_some_iff`: A word names the unit that it is a word for.
* `isBlank_iff`: The blanks are the listed ones.
* `decimalNumber_apart`, `isDigit_of_ascii`: The digits of ASCII are among those of all scripts.
* `not_isDigit_of_isBlank`, `not_isDigit_of_isLetter`, `not_isBlank_of_isDigit`,
  `not_isBlank_of_isLetter`, `not_isLetter_of_isBlank`: No character is of two kinds.
* `parts?_of_pieces`, `pieces_of_parts?`: The walk finds the pieces that a text is made of.
* `unitWord_iff`: The words for units are those of the reader.
* `spells_iff`: Spelling in terms of the walk.
* `ofUnits_eq_ok_iff`: When so many units are a span.
* `read_eq_ok_of_steps`: Reading succeeds if each of its steps does.
* `read_eq_ok_iff`: A text is read as a span exactly if it spells that span.
* `read_five_minutes`: Five minutes, as short as it can be and with zeros and blanks.
-/

namespace RunReport

/-- A stretch of one kind is cut off where something of another kind follows. -/
theorem cut_stretch {α : Type} (p : α → Bool) (as bs : List α) (has : ∀ a ∈ as, p a)
    (hbs : ∀ b ∈ bs.head?, p b = false) :
    (as ++ bs).takeWhile p = as ∧ (as ++ bs).dropWhile p = bs := by
  rw [List.takeWhile_append_of_pos has, List.dropWhile_append_of_pos has]
  cases bs with
  | nil => exact ⟨List.append_nil as, rfl⟩
  | cons b bs =>
      have hb : ¬ p b = true := by rw [hbs b rfl]; decide
      rw [List.takeWhile_cons_of_neg hb, List.dropWhile_cons_of_neg hb, List.append_nil]
      exact ⟨rfl, rfl⟩

namespace Numeral

/-- Digits have the value that they have in base ten, the last one being the lowest. -/
theorem accumulate_eq_ofDigits (cs : List Char) :
    accumulate 0 cs = Nat.ofDigits 10 (cs.reverse.map valueOfDigit) := by
  induction cs using List.reverseRecOn with
  | nil => rfl
  | append_singleton cs c ih =>
      have hlast : accumulate 0 (cs ++ [c]) = 10 * accumulate 0 cs + valueOfDigit c := by
        rw [accumulate, accumulate, List.foldl_append, List.foldl_cons, List.foldl_nil]
      rw [hlast, ih, List.reverse_concat, List.map_cons, Nat.ofDigits_cons, Nat.add_comm]

/-- A text has a value if it is one or more digits. -/
theorem valueOf?_eq_some_iff (cs : List Char) (n : Nat) :
    valueOf? cs = some n ↔
      cs ≠ [] ∧ (∀ c ∈ cs, c.isDigit) ∧ Nat.ofDigits 10 (cs.reverse.map valueOfDigit) = n := by
  have hrefused : (cs.isEmpty || !cs.all Char.isDigit) = false ↔
      cs ≠ [] ∧ ∀ c ∈ cs, c.isDigit := by
    rw [Bool.or_eq_false_iff, List.isEmpty_eq_false_iff, Bool.not_eq_false', List.all_eq_true]
  rw [← accumulate_eq_ofDigits, ← and_assoc, ← hrefused]
  unfold valueOf?
  cases cs.isEmpty || !cs.all Char.isDigit <;> simp

end Numeral

/-- So many numbers have 64 bits. -/
theorem Word.count_eq_pow : count = 2 ^ 64 := rfl

/-- So many milliseconds have a million nanoseconds each. -/
theorem Span.nanos_ofMillis (n : Nat) (h : n < Word.count) :
    (ofMillis n.toUInt64).nanos = n * 1000000 := by
  have hn : n.toUInt64.toNat = n := by
    rw [Nat.toUInt64_eq, UInt64.toNat_ofNat']
    exact Nat.mod_eq_of_lt h
  have hlt : n * 1000000 < Word.count * 1000000000 := by omega
  rw [ofMillis, hn, ofNanos, dif_pos hlt]

/-- A span is its nanoseconds. -/
theorem Span.eq_of_nanos_eq (a b : Span) (h : a.nanos = b.nanos) : a = b := by
  cases a
  cases b
  cases h
  rfl

/-- A word names the unit that it is a word for: no two units share a word. -/
theorem SpanUnit.ofWord?_eq_some_iff (word : String) (unit : SpanUnit) :
    ofWord? word = some unit ↔ word ∈ unit.words := by
  have hown : ∀ u : SpanUnit, ∀ w ∈ u.words, ofWord? w = some u := by
    intro u
    cases u <;> decide +kernel
  refine ⟨fun h => ?_, hown unit word⟩
  have hcontains : unit.words.contains word = true :=
    List.find?_some (p := fun u : SpanUnit => u.words.contains word) h
  exact List.contains_iff_mem.mp hcontains

namespace SpanText

open Text

/-! ### Kinds of characters -/

theorem isLetter_iff (c : Char) : isLetter c ↔ 97 ≤ c.toNat ∧ c.toNat ≤ 122 := by
  rw [isLetter, Bool.and_eq_true, decide_eq_true_eq, decide_eq_true_eq]
  rfl

/-- The numbers of the blanks. -/
def blanks : List Nat :=
  [0x09, 0x0A, 0x0B, 0x0C, 0x0D, 0x20, 0x85, 0xA0, 0x1680, 0x2000, 0x2001, 0x2002, 0x2003, 0x2004,
    0x2005, 0x2006, 0x2007, 0x2008, 0x2009, 0x200A, 0x2028, 0x2029, 0x202F, 0x205F, 0x3000]

/-- The blanks are the listed ones. -/
theorem isBlank_iff (c : Char) : isBlank c ↔ c.toNat ∈ blanks := by
  unfold isBlank
  simp only [Bool.or_eq_true, Bool.and_eq_true, decide_eq_true_eq, beq_iff_eq]
  simp only [blanks, List.mem_cons, List.not_mem_nil, or_false]
  omega

/-- One of the ranges of digits is that of ASCII, and none has a blank or a letter in it. -/
theorem decimalNumber_apart :
    (48, 57) ∈ Unicode.Category.decimalNumber ∧
    ∀ n ∈ blanks ++ List.range' 97 26, ∀ r ∈ Unicode.Category.decimalNumber,
      (decide (r.1 ≤ n) && decide (n ≤ r.2)) = false := by
  -- The characters of the literal are its own data. Computing them takes a hundred times as long.
  unfold Unicode.Category.decimalNumber Unicode.Ranges.ofText Unicode.Ranges.numbers
  rw [String.toList_ofList]
  decide +kernel

/-- The digits of ASCII are digits. -/
theorem isDigit_of_ascii (c : Char) (h : c.isDigit) : isDigit c := by
  rw [Numeral.isDigit_iff] at h
  refine List.any_eq_true.mpr ⟨_, decimalNumber_apart.1, ?_⟩
  rw [Bool.and_eq_true, decide_eq_true_eq, decide_eq_true_eq]
  exact h

theorem not_isDigit_of_mem (c : Char) (hc : c.toNat ∈ blanks ++ List.range' 97 26) :
    isDigit c = false :=
  List.any_eq_false.mpr fun r hr => Bool.eq_false_iff.mp (decimalNumber_apart.2 c.toNat hc r hr)

theorem not_isDigit_of_isBlank (c : Char) (h : isBlank c) : isDigit c = false :=
  not_isDigit_of_mem c (List.mem_append_left _ ((isBlank_iff c).mp h))

theorem not_isDigit_of_isLetter (c : Char) (h : isLetter c) : isDigit c = false := by
  rw [isLetter_iff] at h
  refine not_isDigit_of_mem c (List.mem_append_right _ ?_)
  rw [List.mem_range'_1]
  omega

theorem not_isBlank_of_isLetter (c : Char) (h : isLetter c) : isBlank c = false := by
  by_contra hblank
  rw [Bool.not_eq_false] at hblank
  have hcode := (isBlank_iff c).mp hblank
  rw [isLetter_iff] at h
  simp only [blanks, List.mem_cons, List.not_mem_nil, or_false] at hcode
  omega

/-- Two kinds are apart whichever of them is asked for first. -/
theorem apart_symm (p q : Char → Bool) (h : ∀ c, p c → q c = false) (c : Char) (hc : q c) :
    p c = false := by
  by_contra hp
  rw [Bool.not_eq_false] at hp
  rw [h c hp] at hc
  cases hc

theorem not_isBlank_of_isDigit (c : Char) (h : isDigit c) : isBlank c = false :=
  apart_symm isBlank isDigit not_isDigit_of_isBlank c h

theorem not_isLetter_of_isBlank (c : Char) (h : isBlank c) : isLetter c = false :=
  apart_symm isLetter isBlank not_isBlank_of_isLetter c h

/-! ### The form of a span -/

/-- A text in five pieces: digits and a word, with blanks before, between and after them. -/
structure Pieces (cs before digits between word after : List Char) : Prop where
  text_eq : cs = before ++ (digits ++ (between ++ (word ++ after)))
  isBlank_before : ∀ c ∈ before, isBlank c
  isDigit_digits : ∀ c ∈ digits, isDigit c
  digits_ne_nil : digits ≠ []
  isBlank_between : ∀ c ∈ between, isBlank c
  isLetter_word : ∀ c ∈ word, isLetter c
  word_ne_nil : word ≠ []
  isBlank_after : ∀ c ∈ after, isBlank c

/-- The head of a piece that is not empty, whatever follows it, is of the kind of the piece. -/
theorem head_of_piece (P : Char → Prop) (as bs : List Char) (hne : as ≠ []) (has : ∀ a ∈ as, P a) :
    ∀ c ∈ (as ++ bs).head?, P c := by
  intro c hc
  cases as with
  | nil => exact absurd rfl hne
  | cons a as => exact Option.some.inj hc ▸ has a List.mem_cons_self

/-- The walk finds the pieces that a text is made of. -/
theorem parts?_of_pieces (cs before digits between word after : List Char)
    (h : Pieces cs before digits between word after) : parts? cs = some (digits, word) := by
  have hword : ∀ c ∈ (word ++ after).head?, isLetter c :=
    head_of_piece _ word after h.word_ne_nil h.isLetter_word
  -- There need not be a blank between the digits and the word.
  have hbetween : ∀ c ∈ (between ++ (word ++ after)).head?, isDigit c = false := by
    cases hnil : between with
    | nil => exact fun c hc => not_isDigit_of_isLetter c (hword c hc)
    | cons b bs =>
        intro c hc
        refine not_isDigit_of_isBlank c (h.isBlank_between c ?_)
        rw [hnil, ← Option.some.inj hc]
        exact List.mem_cons_self
  have hdigits : ∀ c ∈ (digits ++ (between ++ (word ++ after))).head?, isBlank c = false :=
    fun c hc => not_isBlank_of_isDigit c
      (head_of_piece (isDigit · = true) _ _ h.digits_ne_nil h.isDigit_digits c hc)
  have hafter : ∀ c ∈ after.head?, isLetter c = false := fun c hc =>
    not_isLetter_of_isBlank c (h.isBlank_after c (List.mem_of_mem_head? hc))
  -- The four cuts of the walk, from the left.
  rcases cut_stretch isBlank before _ h.isBlank_before hdigits with ⟨-, hstart⟩
  rcases cut_stretch isDigit digits _ h.isDigit_digits hbetween with ⟨htaken, hleft⟩
  rcases cut_stretch isBlank between _ h.isBlank_between
    (fun c hc => not_isBlank_of_isLetter c (hword c hc)) with ⟨-, hmiddle⟩
  rcases cut_stretch isLetter word after h.isLetter_word hafter with ⟨hletters, hend⟩
  have hblank : after.all isBlank = true := List.all_eq_true.mpr h.isBlank_after
  rw [h.text_eq]
  simp only [parts?, trimStart, hstart, htaken, hleft, hmiddle, hletters, hend, hblank,
    List.isEmpty_eq_false_iff.mpr h.digits_ne_nil, List.isEmpty_eq_false_iff.mpr h.word_ne_nil,
    Bool.or_false, Bool.not_true, Bool.false_eq_true, if_false]

/-- A text in which the walk finds digits and a word is made of such pieces. -/
theorem pieces_of_parts? (cs digits word : List Char) (h : parts? cs = some (digits, word)) :
    ∃ before between after, Pieces cs before digits between word after := by
  -- Each piece is taken from where the one before it ended.
  let start := trimStart cs
  let left := start.dropWhile isDigit
  let rest := trimStart left
  have hform : ((start.takeWhile isDigit).isEmpty || (rest.takeWhile isLetter).isEmpty
      || !(rest.dropWhile isLetter).all isBlank) = false ∧
      start.takeWhile isDigit = digits ∧ rest.takeWhile isLetter = word := by
    change (if _ then none else some (start.takeWhile isDigit, rest.takeWhile isLetter)) = _ at h
    split at h
    · cases h
    · next hcond => exact ⟨Bool.eq_false_of_not_eq_true hcond, Prod.ext_iff.mp (Option.some.inj h)⟩
  rcases hform with ⟨hcond, rfl, rfl⟩
  rw [Bool.or_eq_false_iff, Bool.or_eq_false_iff, Bool.not_eq_false', List.all_eq_true,
    List.isEmpty_eq_false_iff, List.isEmpty_eq_false_iff] at hcond
  refine ⟨cs.takeWhile isBlank, left.takeWhile isBlank, rest.dropWhile isLetter, ?_,
    fun _ => List.mem_takeWhile_imp, fun _ => List.mem_takeWhile_imp, hcond.1.1,
    fun _ => List.mem_takeWhile_imp, fun _ => List.mem_takeWhile_imp, hcond.1.2, hcond.2⟩
  have hrest : left.takeWhile isBlank ++ rest = left := trimStart_append left
  have hleft : start.takeWhile isDigit ++ left = start := List.takeWhile_append_dropWhile
  rw [List.takeWhile_append_dropWhile, hrest, hleft, trimStart_append]

/-! ### Spelled spans -/

/-- A word for a unit of so many milliseconds, with the name that a message has for the unit. -/
inductive UnitWord (word : String) : Nat → String → Prop
  | millisecond (h : word ∈ ["ms", "millisecond", "millis", "milliseconds"]) :
      UnitWord word 1 "Millisecond"
  | second (h : word ∈ ["s", "second", "secs", "seconds"]) : UnitWord word 1000 "Second"
  | minute (h : word ∈ ["m", "minute", "mins", "minutes"]) : UnitWord word 60000 "Minute"
  | hour (h : word ∈ ["h", "hour", "hours"]) : UnitWord word 3600000 "Hour"

/-- A text spells so many units of so many milliseconds: it is digits of ASCII and a word for the
    unit, with blanks before, between and after them, and the digits write the number in base
    ten. -/
def Spells (s : String) (count millis : Nat) : Prop :=
  ∃ before digits between word after : List Char, ∃ name,
    s.toList = before ++ (digits ++ (between ++ (word ++ after))) ∧
    (∀ c ∈ before ++ between ++ after, c.toNat ∈ blanks) ∧
    digits ≠ [] ∧ (∀ c ∈ digits, c.isDigit) ∧ UnitWord (String.ofList word) millis name ∧
    Nat.ofDigits 10 (digits.reverse.map (·.toNat - 48)) = count

/-- The words for units, their milliseconds and their names are those of the reader. -/
theorem unitWord_iff (word : String) (millis : Nat) (name : String) :
    UnitWord word millis name ↔
      ∃ unit, SpanUnit.ofWord? word = some unit ∧ unit.millis = millis ∧ unit.name = name := by
  simp only [SpanUnit.ofWord?_eq_some_iff]
  constructor
  · intro h
    cases h with
    | millisecond h => exact ⟨.millisecond, h, rfl, rfl⟩
    | second h => exact ⟨.second, h, rfl, rfl⟩
    | minute h => exact ⟨.minute, h, rfl, rfl⟩
    | hour h => exact ⟨.hour, h, rfl, rfl⟩
  · rintro ⟨unit, h, rfl, rfl⟩
    cases unit with
    | millisecond => exact .millisecond h
    | second => exact .second h
    | minute => exact .minute h
    | hour => exact .hour h

/-- The words for units are made of letters. -/
theorem isLetter_of_mem_words (unit : SpanUnit) (word : List Char)
    (h : String.ofList word ∈ unit.words) : word ≠ [] ∧ ∀ c ∈ word, isLetter c := by
  have hwords : ∀ w ∈ unit.words, w.toList ≠ [] ∧ w.toList.all isLetter = true := by
    cases unit <;> decide +kernel
  have hword := hwords _ h
  rwa [String.toList_ofList, List.all_eq_true] at hword

/-- A text spells so many units if the digits and the word that the walk finds say so. -/
theorem spells_iff (s : String) (count millis : Nat) :
    Spells s count millis ↔
      ∃ digits word unit, parts? s.toList = some (digits, word) ∧
        Numeral.valueOf? digits = some count ∧
        SpanUnit.ofWord? (String.ofList word) = some unit ∧ unit.millis = millis := by
  constructor
  · rintro ⟨before, digits, between, word, after, name, htext, hblank, hne, hdigits, hword, hcount⟩
    rcases (unitWord_iff _ _ _).mp hword with ⟨unit, hunit, hmillis, -⟩
    rcases isLetter_of_mem_words unit word ((SpanUnit.ofWord?_eq_some_iff _ unit).mp hunit) with
      ⟨hwordNe, hletters⟩
    simp only [List.forall_mem_append, ← isBlank_iff] at hblank
    refine ⟨digits, word, unit, parts?_of_pieces _ before digits between word after ?_,
      (Numeral.valueOf?_eq_some_iff digits count).mpr ⟨hne, hdigits, hcount⟩, hunit, hmillis⟩
    exact ⟨htext, hblank.1.1, fun c hc => isDigit_of_ascii c (hdigits c hc), hne, hblank.1.2,
      hletters, hwordNe, hblank.2⟩
  · -- The name of the unit is not part of the spelling, so the other way takes that of the table.
    rintro ⟨digits, word, unit, hparts, hvalue, hunit, hmillis⟩
    rcases pieces_of_parts? _ digits word hparts with ⟨before, between, after, h⟩
    rcases (Numeral.valueOf?_eq_some_iff digits count).mp hvalue with ⟨hne, hdigits, hcount⟩
    refine ⟨before, digits, between, word, after, unit.name, h.text_eq, ?_, hne, hdigits,
      (unitWord_iff _ _ _).mpr ⟨unit, hunit, hmillis, rfl⟩, hcount⟩
    simp only [List.forall_mem_append, ← isBlank_iff]
    exact ⟨⟨h.isBlank_before, h.isBlank_between⟩, h.isBlank_after⟩

/-- So many units are a span if their milliseconds fit 64 bits, and they are those milliseconds. -/
theorem ofUnits_eq_ok_iff (count : Nat) (unit : SpanUnit) (d : Span) :
    ofUnits count unit = .ok d ↔
      count * unit.millis < Word.count ∧ d.nanos = count * unit.millis * 1000000 := by
  unfold ofUnits
  by_cases hlt : count * unit.millis < Word.count
  · have hnanos := Span.nanos_ofMillis _ hlt
    rw [if_pos hlt, and_iff_right hlt, ← hnanos, Except.ok.injEq]
    exact ⟨fun h => h ▸ rfl, fun h => Span.eq_of_nanos_eq _ _ h.symm⟩
  · rw [if_neg hlt]
    exact ⟨nofun, fun h => absurd h.1 hlt⟩

/-- Reading succeeds if each of its steps does. -/
theorem read_eq_ok_of_steps (s : String) (digits word : List Char) (count : Nat) (unit : SpanUnit)
    (d : Span) (hparts : parts? s.toList = some (digits, word))
    (hvalue : Numeral.valueOf? digits = some count) (hcount : count < Word.count)
    (hunit : SpanUnit.ofWord? (String.ofList word) = some unit) (hd : ofUnits count unit = .ok d) :
    read s = .ok d := by
  have hfits : (Numeral.valueOf? digits).filter (· < Word.count) = some count := by
    rw [hvalue, Option.filter_some, if_pos (decide_eq_true hcount)]
  simp only [read, hparts, hfits, hunit, hd]

/-- A text is read as a span exactly if it spells some units of time, their number fits 64 bits, and
    so do the milliseconds they stand for. The span has just these milliseconds. -/
theorem read_eq_ok_iff (s : String) (d : Span) :
    read s = .ok d ↔
      ∃ count millis, Spells s count millis ∧ count < 2 ^ 64 ∧
        count * millis < 2 ^ 64 ∧ d.nanos = count * millis * 1000000 := by
  simp only [spells_iff, ← Word.count_eq_pow]
  constructor
  · intro h
    unfold read at h
    -- Each step of the reading can fail, and then the text has no span.
    split at h
    · cases h
    next digits word hparts =>
    split at h
    · cases h
    next count hcount =>
    split at h
    · cases h
    next unit hunit =>
    rcases Option.filter_eq_some_iff.mp hcount with ⟨hvalue, hlt⟩
    exact ⟨count, unit.millis, ⟨digits, word, unit, hparts, hvalue, hunit, rfl⟩,
      of_decide_eq_true hlt, (ofUnits_eq_ok_iff count unit d).mp h⟩
  · rintro ⟨count, -, ⟨digits, word, unit, hparts, hvalue, hunit, rfl⟩, hlt, hd⟩
    exact read_eq_ok_of_steps s digits word count unit d hparts hvalue hlt hunit
      ((ofUnits_eq_ok_iff count unit d).mpr hd)

/-- Five minutes, as short as it can be and in milliseconds with zeros and blanks. -/
theorem read_five_minutes :
    Spells "5m" 5 60000 ∧ read "5m" = .ok (Span.ofMillis 300000) ∧
    Spells "\u00a0000300000 millis\n" 300000 1 ∧
    read "\u00a0000300000 millis\n" = .ok (Span.ofMillis 300000) := by
  have hshort : Spells "5m" 5 60000 :=
    ⟨[], ['5'], [], ['m'], [], "Minute", rfl, List.forall_mem_nil _, List.cons_ne_nil _ _,
      List.forall_mem_singleton.mpr rfl, .minute (by decide), rfl⟩
  have hlong : Spells "\u00a0000300000 millis\n" 300000 1 :=
    ⟨['\u00a0'], "000300000".toList, [' '], "millis".toList, ['\n'], "Millisecond", rfl,
      List.all_iff_forall_prop.mp (by decide), by decide, List.all_iff_forall_prop.mp (by decide),
      .millisecond (by decide), by decide⟩
  exact ⟨hshort, (read_eq_ok_iff _ _).mpr ⟨5, 60000, hshort, by decide, by decide, by decide⟩,
    hlong, (read_eq_ok_iff _ _).mpr ⟨300000, 1, hlong, by decide, by decide, by decide⟩⟩

end SpanText

end RunReport
