import RunReport.Proofs.SpanSpelling

/-!
# The Text of a Span Read Back

A span in a table cell is its whole seconds, no more and no less.

The text has up to three numbers, of hours, minutes and seconds, and leaves out those that are zero
in front. So there are three shapes of it, and a reader who wants to have the seconds back has to
tell them apart by the text alone. `SpanParts` are the digits of such a text, and `SpanParts.Reads`
says that a text is made of them. A number ends where its unit begins, because a unit has no digits
in it, so a text is made of some parts in one way only (`chars_inj`): the first number is one of
hours if an `h` follows it and there are none if there is no number in front of the first blank, and
what stands behind the blank is minutes if an `m` follows.

`Shows` says which parts so many seconds should have, and `ofSeconds_shows` that the parts that are
written are of this kind. Since the parts can be read off the text and their value is the number of
seconds, spans with one text have the same seconds.

## Main definitions

* `SpanParts`: The digits of hours, minutes and seconds.
* `SpanParts.chars`: The text that is made of some parts.
* `SpanParts.Numeric`, `SpanParts.Reads`: A text is made of some parts, which are numbers.
* `SpanParts.value`: The seconds that some parts stand for.
* `SpanParts.Shows`: Some parts show so many seconds as they should.
* `SpanParts.ofSeconds`: The parts that are written for so many seconds.

## Theorems

* `stretch_inj`: Two stretches of one kind are the same if their texts are.
* `SpanParts.numeric_decimal`, `SpanParts.numeric_padded`: Numerals are numbers.
* `SpanParts.head?_behind`, `SpanParts.cut_hours`, `SpanParts.cut_minutes`: What a text begins with.
* `SpanParts.chars_inj`, `SpanParts.reads_unique`: A text is made of some parts in one way only.
* `SpanParts.ofSeconds_cases`: The three shapes of a text.
* `SpanParts.numeric_ofSeconds`, `SpanParts.value_ofSeconds`, `SpanParts.ofSeconds_shows`: What is
  written for so many seconds are numbers that make up the seconds, and they are as they should be.
* `Span.seconds_eq`: The whole seconds of a span.
* `Span.toList_hoursText`, `Span.toList_minutesText`, `Span.toList_text`: The text is made of the
  parts of the whole seconds.
* `Span.text_reads_back`: The text of a span can be read in one way, as its whole seconds.
-/

namespace RunReport

/-- Two stretches of one kind, each with something of another kind behind it, are the same if their
    texts are. -/
theorem stretch_inj {α : Type} (p : α → Bool) (as bs rest rest' : List α)
    (has : ∀ a ∈ as, p a) (hbs : ∀ b ∈ bs, p b) (hrest : ∀ c ∈ rest.head?, p c = false)
    (hrest' : ∀ c ∈ rest'.head?, p c = false) (h : as ++ rest = bs ++ rest') :
    as = bs ∧ rest = rest' := by
  rcases cut_stretch p as rest has hrest with ⟨htaken, hleft⟩
  rcases cut_stretch p bs rest' hbs hrest' with ⟨htaken', hleft'⟩
  rw [h] at htaken hleft
  exact ⟨htaken.symm.trans htaken', hleft.symm.trans hleft'⟩

/-- The digits in the text of a span: of hours and of minutes, if it has them, and of seconds. -/
structure SpanParts where
  hours : Option (List Char)
  minutes : Option (List Char)
  seconds : List Char

namespace SpanParts

/-- The hours of a text. -/
def hoursChars : Option (List Char) → List Char
  | none => []
  | some ds => ds ++ ['h', 'r']

/-- The minutes of a text, with a blank in front. -/
def minutesChars : Option (List Char) → List Char
  | none => []
  | some ds => ' ' :: (ds ++ ['m'])

/-- The text behind the hours. -/
def behind (p : SpanParts) : List Char :=
  minutesChars p.minutes ++ ' ' :: (p.seconds ++ ['s'])

/-- The text that is made of some parts. -/
def chars (p : SpanParts) : List Char :=
  hoursChars p.hours ++ p.behind

/-- Parts are numbers of one digit or more. -/
structure Numeric (p : SpanParts) : Prop where
  hours : ∀ ds ∈ p.hours, ds ≠ [] ∧ ∀ c ∈ ds, c.isDigit
  minutes : ∀ ds ∈ p.minutes, ds ≠ [] ∧ ∀ c ∈ ds, c.isDigit
  seconds : p.seconds ≠ [] ∧ ∀ c ∈ p.seconds, c.isDigit

/-- A text is made of some parts, which are numbers. -/
def Reads (p : SpanParts) (s : String) : Prop :=
  p.Numeric ∧ s.toList = p.chars

/-- The seconds that some parts stand for. -/
def value (p : SpanParts) : Nat :=
  3600 * Numeral.accumulate 0 (p.hours.getD []) + 60 * Numeral.accumulate 0 (p.minutes.getD []) +
    Numeral.accumulate 0 p.seconds

/-! ### One reading -/

/-- Behind the hours there is a blank. -/
theorem head?_behind (p : SpanParts) : p.behind.head? = some ' ' := by
  unfold behind
  cases p.minutes <;> rfl

/-- A text begins with the digits of its hours, which are none if it has no hours. -/
theorem cut_hours (p : SpanParts) (hp : p.Numeric) :
    ∃ ds rest, p.chars = ds ++ rest ∧ (∀ c ∈ ds, c.isDigit) ∧
      (∀ c ∈ rest.head?, c.isDigit = false) ∧
      ((p.hours = none ∧ ds = [] ∧ rest = p.behind) ∨
        (p.hours = some ds ∧ ds ≠ [] ∧ rest = 'h' :: 'r' :: p.behind)) := by
  unfold chars
  cases hhours : p.hours with
  | none =>
      refine ⟨[], p.behind, rfl, List.forall_mem_nil _, ?_, .inl ⟨rfl, rfl, rfl⟩⟩
      rw [head?_behind]
      rintro c ⟨⟩
      rfl
  | some ds =>
      have hds := hp.hours ds hhours
      refine ⟨ds, 'h' :: 'r' :: p.behind, ?_, hds.2, ?_, .inr ⟨rfl, hds.1, rfl⟩⟩
      · exact List.append_assoc ds ['h', 'r'] p.behind
      · rintro c ⟨⟩
        rfl

/-- Behind the hours there are the digits of the minutes, or those of the seconds if there are no
    minutes. -/
theorem cut_minutes (p : SpanParts) (hp : p.Numeric) :
    ∃ ds rest, p.behind = ' ' :: (ds ++ rest) ∧ (∀ c ∈ ds, c.isDigit) ∧
      (∀ c ∈ rest.head?, c.isDigit = false) ∧
      ((p.minutes = none ∧ ds = p.seconds ∧ rest = ['s']) ∨
        (p.minutes = some ds ∧ rest = 'm' :: ' ' :: (p.seconds ++ ['s']))) := by
  unfold behind
  cases hminutes : p.minutes with
  | none =>
      refine ⟨p.seconds, ['s'], rfl, hp.seconds.2, ?_, .inl ⟨rfl, rfl, rfl⟩⟩
      rintro c ⟨⟩
      rfl
  | some ds =>
      refine ⟨ds, 'm' :: ' ' :: (p.seconds ++ ['s']), ?_, (hp.minutes ds hminutes).2, ?_,
        .inr ⟨rfl, rfl⟩⟩
      · rw [minutesChars, List.cons_append, List.append_assoc]
        rfl
      · rintro c ⟨⟩
        rfl

/-- A text is made of some parts in one way only: what a number counts is told by the character
    behind it. -/
theorem chars_inj (p q : SpanParts) (hp : p.Numeric) (hq : q.Numeric) (h : p.chars = q.chars) :
    p = q := by
  -- First the hours are cut off, then what is left is cut once more.
  rcases cut_hours p hp with ⟨ds, rest, htext, hds, hrest, hhours⟩
  rcases cut_hours q hq with ⟨ds', rest', htext', hds', hrest', hhours'⟩
  rw [htext, htext'] at h
  rcases stretch_inj Char.isDigit ds ds' rest rest' hds hds' hrest hrest' h with ⟨rfl, rfl⟩
  have hsame : p.hours = q.hours ∧ p.behind = q.behind := by
    -- Without hours there is no number in front, with them there is one.
    rcases hhours with ⟨hp, hnil, hbehind⟩ | ⟨hp, hne, hbehind⟩
    · rcases hhours' with ⟨hq, -, hbehind'⟩ | ⟨-, hne, -⟩
      · exact ⟨hp.trans hq.symm, hbehind.symm.trans hbehind'⟩
      · exact absurd hnil hne
    · rcases hhours' with ⟨-, hnil, -⟩ | ⟨hq, -, hbehind'⟩
      · exact absurd hnil hne
      · have htail := hbehind.symm.trans hbehind'
        exact ⟨hp.trans hq.symm, List.tail_eq_of_cons_eq (List.tail_eq_of_cons_eq htail)⟩
  rcases cut_minutes p hp with ⟨ms, more, htext, hms, hmore, hminutes⟩
  rcases cut_minutes q hq with ⟨ms', more', htext', hms', hmore', hminutes'⟩
  have hbehind := hsame.2
  rw [htext, htext', List.cons_inj_right] at hbehind
  rcases stretch_inj Char.isDigit ms ms' more more' hms hms' hmore hmore' hbehind with ⟨rfl, rfl⟩
  have hlast : p.minutes = q.minutes ∧ p.seconds = q.seconds := by
    -- The number is one of seconds or of minutes, and the character behind it says which.
    rcases hminutes with ⟨hp, hseconds, hmore⟩ | ⟨hp, hmore⟩
    · rcases hminutes' with ⟨hq, hseconds', -⟩ | ⟨-, hmore'⟩
      · exact ⟨hp.trans hq.symm, hseconds.symm.trans hseconds'⟩
      · rw [hmore] at hmore'
        cases hmore'
    · rcases hminutes' with ⟨-, -, hmore'⟩ | ⟨hq, hmore'⟩
      · rw [hmore] at hmore'
        cases hmore'
      · rw [hmore, List.cons_inj_right, List.cons_inj_right, List.append_cancel_right_eq] at hmore'
        exact ⟨hp.trans hq.symm, hmore'⟩
  cases p
  cases q
  rcases hsame.1 with rfl
  rcases hlast with ⟨rfl, rfl⟩
  rfl

theorem reads_unique (p q : SpanParts) (s : String) (hp : p.Reads s) (hq : q.Reads s) : q = p :=
  chars_inj q p hq.1 hp.1 (hq.2.symm.trans hp.2)

/-! ### What is written -/

/-- The parts that are written for so many seconds. -/
def ofSeconds (n : Nat) : SpanParts where
  hours := if n / 3600 = 0 then none else some (Numeral.decimal (n / 3600))
  minutes :=
    if n / 3600 = 0 ∧ n / 60 % 60 = 0 then none
    else if n / 3600 = 0 then some (Numeral.decimal (n / 60 % 60))
    else some (Numeral.padded 2 (n / 60 % 60)).toList
  seconds := (Numeral.padded 2 (n % 60)).toList

/-- Some parts show so many seconds as they should. There are hours if an hour has passed, and
    minutes if there are hours or minutes. Minutes have two digits behind hours, seconds always
    have two, and no other number begins with a zero. -/
structure Shows (p : SpanParts) (n : Nat) : Prop where
  hours_isSome : p.hours.isSome ↔ 3600 ≤ n
  hours_plain : ∀ ds ∈ p.hours, ds.head? ≠ some '0'
  minutes_isSome : p.minutes.isSome ↔ p.hours.isSome ∨ n / 60 % 60 ≠ 0
  minutes_lt : ∀ ds ∈ p.minutes, Numeral.accumulate 0 ds < 60
  minutes_padded : p.hours.isSome → ∀ ds ∈ p.minutes, ds.length = 2
  minutes_plain : p.hours = none → ∀ ds ∈ p.minutes, ds.head? ≠ some '0'
  seconds_length : p.seconds.length = 2
  seconds_lt : Numeral.accumulate 0 p.seconds < 60
  value_eq : p.value = n

theorem numeric_decimal (n : Nat) :
    Numeral.decimal n ≠ [] ∧ ∀ c ∈ Numeral.decimal n, c.isDigit :=
  ⟨Numeral.decimal_ne_nil n, Numeral.isDigit_of_mem_decimal n⟩

theorem numeric_padded (n : Nat) (h : n < 100) :
    (Numeral.padded 2 n).toList ≠ [] ∧ ∀ c ∈ (Numeral.padded 2 n).toList, c.isDigit := by
  refine ⟨fun hnil => ?_, Numeral.isDigit_of_mem_padded 2 n⟩
  have hlength := Numeral.length_padded_two n h
  rw [hnil] at hlength
  cases hlength

/-- What is written for so many seconds, in the three shapes that there are. -/
theorem ofSeconds_cases (n : Nat) :
    (n / 3600 = 0 ∧ n / 60 % 60 = 0 ∧
      ofSeconds n = ⟨none, none, (Numeral.padded 2 (n % 60)).toList⟩) ∨
    (n / 3600 = 0 ∧ n / 60 % 60 ≠ 0 ∧
      ofSeconds n
        = ⟨none, some (Numeral.decimal (n / 60 % 60)), (Numeral.padded 2 (n % 60)).toList⟩) ∨
    (n / 3600 ≠ 0 ∧
      ofSeconds n
        = ⟨some (Numeral.decimal (n / 3600)), some (Numeral.padded 2 (n / 60 % 60)).toList,
          (Numeral.padded 2 (n % 60)).toList⟩) := by
  unfold ofSeconds
  -- Minutes are left out only where the hours are.
  by_cases hh : n / 3600 = 0
  · by_cases hm : n / 60 % 60 = 0
    · rw [if_pos hh, if_pos ⟨hh, hm⟩]
      exact .inl ⟨hh, hm, rfl⟩
    · rw [if_pos hh, if_neg fun h => hm h.2, if_pos hh]
      exact .inr (.inl ⟨hh, hm, rfl⟩)
  · rw [if_neg hh, if_neg fun h => hh h.1, if_neg hh]
    exact .inr (.inr ⟨hh, rfl⟩)

theorem numeric_ofSeconds (n : Nat) : (ofSeconds n).Numeric := by
  have hminutes := numeric_padded (n / 60 % 60) (by omega)
  have hseconds := numeric_padded (n % 60) (by omega)
  rcases ofSeconds_cases n with ⟨-, -, h⟩ | ⟨-, -, h⟩ | ⟨-, h⟩
  · rw [h]
    exact ⟨nofun, nofun, hseconds⟩
  · rw [h]
    refine ⟨nofun, ?_, hseconds⟩
    rintro ds ⟨⟩
    exact numeric_decimal _
  · rw [h]
    refine ⟨?_, ?_, hseconds⟩
    · rintro ds ⟨⟩
      exact numeric_decimal _
    · rintro ds ⟨⟩
      exact hminutes

/-- The numbers that are written make up the seconds, those left out being zero. -/
theorem value_ofSeconds (n : Nat) : (ofSeconds n).value = n := by
  have hnone : Numeral.accumulate 0 [] = 0 := rfl
  have hminutes := Numeral.accumulate_padded 2 (n / 60 % 60)
  have hseconds := Numeral.accumulate_padded 2 (n % 60)
  rcases ofSeconds_cases n with ⟨hh, hm, h⟩ | ⟨hh, -, h⟩ | ⟨-, h⟩
  · simp only [h, value, Option.getD_none, hnone, hseconds]
    omega
  · simp only [h, value, Option.getD_none, Option.getD_some, hnone, Numeral.accumulate_decimal,
      hseconds]
    omega
  · simp only [h, value, Option.getD_some, Numeral.accumulate_decimal, hminutes, hseconds]
    omega

/-- What is written for so many seconds shows them as it should. -/
theorem ofSeconds_shows (n : Nat) : (ofSeconds n).Shows n := by
  have hvalue := value_ofSeconds n
  have hsixty : n / 60 % 60 < 60 := by omega
  have hminutes := Numeral.accumulate_padded 2 (n / 60 % 60)
  have hseconds := Numeral.accumulate_padded 2 (n % 60)
  have hlength := Numeral.length_padded_two (n % 60) (by omega)
  have hlt : Numeral.accumulate 0 (Numeral.padded 2 (n % 60)).toList < 60 := by omega
  -- The three forms share their seconds and their value, and differ in the parts in front.
  rcases ofSeconds_cases n with ⟨hh, hm, h⟩ | ⟨hh, hm, h⟩ | ⟨hh, h⟩
  · rw [h] at hvalue ⊢
    exact {
      hours_isSome := ⟨nofun, fun hhour => by omega⟩
      hours_plain := nofun
      minutes_isSome := ⟨nofun, fun hany => absurd hm (hany.resolve_left nofun)⟩
      minutes_lt := nofun
      minutes_padded := nofun
      minutes_plain := fun _ => nofun
      seconds_length := hlength
      seconds_lt := hlt
      value_eq := hvalue }
  · rw [h] at hvalue ⊢
    exact {
      hours_isSome := ⟨nofun, fun hhour => by omega⟩
      hours_plain := nofun
      minutes_isSome := ⟨fun _ => .inr hm, fun _ => rfl⟩
      minutes_lt := by
        rintro ds ⟨⟩
        rw [Numeral.accumulate_decimal]
        exact hsixty
      minutes_padded := nofun
      minutes_plain := by
        rintro - ds ⟨⟩
        exact Numeral.head?_decimal _ hm
      seconds_length := hlength
      seconds_lt := hlt
      value_eq := hvalue }
  · rw [h] at hvalue ⊢
    exact {
      hours_isSome := ⟨fun _ => by omega, fun _ => rfl⟩
      hours_plain := by
        rintro ds ⟨⟩
        exact Numeral.head?_decimal _ hh
      minutes_isSome := ⟨fun _ => .inl rfl, fun _ => rfl⟩
      minutes_lt := by
        rintro ds ⟨⟩
        rw [hminutes]
        exact hsixty
      minutes_padded := by
        rintro - ds ⟨⟩
        exact Numeral.length_padded_two _ (by omega)
      minutes_plain := nofun
      seconds_length := hlength
      seconds_lt := hlt
      value_eq := hvalue }

end SpanParts

namespace Span

/-- Whole seconds of whole milliseconds are those of the nanoseconds. -/
theorem seconds_eq (d : Span) : d.seconds = d.nanos / 1000000000 := by
  rw [seconds, millis, Nat.div_div_eq_div_mul]

theorem toList_hoursText (hours : Nat) :
    (hoursText hours).toList
      = SpanParts.hoursChars (if hours = 0 then none else some (Numeral.decimal hours)) := by
  unfold hoursText
  by_cases hh : hours = 0
  · rw [if_pos hh, if_pos hh]
    rfl
  · rw [if_neg hh, if_neg hh, String.toList_append, Numeral.text, String.toList_ofList]
    rfl

theorem toList_minutesText (hours minutes : Nat) :
    (minutesText hours minutes).toList
      = SpanParts.minutesChars (if hours = 0 ∧ minutes = 0 then none
          else if hours = 0 then some (Numeral.decimal minutes)
          else some (Numeral.padded 2 minutes).toList) := by
  unfold minutesText
  by_cases hboth : hours = 0 ∧ minutes = 0
  · rw [if_pos hboth, if_pos hboth]
    rfl
  · rw [if_neg hboth, if_neg hboth]
    by_cases hh : hours = 0
    · have hdigits : (Numeral.text minutes).toList = Numeral.decimal minutes :=
        String.toList_ofList
      rw [if_pos hh, if_pos hh, String.toList_append, String.toList_append, hdigits]
      rfl
    · rw [if_neg hh, if_neg hh, String.toList_append, String.toList_append]
      rfl

/-- The text of a span is made of the parts that are written for its whole seconds. -/
theorem toList_text (d : Span) : d.text.toList = (SpanParts.ofSeconds d.seconds).chars := by
  have hhours : d.seconds / 60 / 60 = d.seconds / 3600 := Nat.div_div_eq_div_mul _ _ _
  unfold text SpanParts.chars SpanParts.behind SpanParts.ofSeconds
  simp only [String.toList_append, toList_hoursText, toList_minutesText, hhours,
    List.append_assoc]
  rfl

/-- The text of a span can be read in one way, and the reading shows the whole seconds of the span
    as it should. So two spans have the same text exactly if they have the same whole seconds. -/
theorem text_reads_back (d : Span) :
    (∃ p : SpanParts, p.Reads d.text ∧ (∀ q : SpanParts, q.Reads d.text → q = p) ∧
      p.Shows (d.nanos / 1000000000)) ∧
    ∀ e : Span, d.text = e.text ↔ d.nanos / 1000000000 = e.nanos / 1000000000 := by
  have hreads : ∀ e : Span, (SpanParts.ofSeconds (e.nanos / 1000000000)).Reads e.text := by
    intro e
    rw [← seconds_eq]
    exact ⟨SpanParts.numeric_ofSeconds _, toList_text e⟩
  refine ⟨⟨_, hreads d, fun q hq => SpanParts.reads_unique _ q _ (hreads d) hq,
    SpanParts.ofSeconds_shows _⟩, fun e => ⟨fun htext => ?_, fun hseconds => ?_⟩⟩
  · -- One text has one reading, and its value is the number of seconds.
    have hread := hreads e
    rw [← htext] at hread
    have hparts := SpanParts.reads_unique _ _ _ (hreads d) hread
    rw [← SpanParts.value_ofSeconds (d.nanos / 1000000000), ← hparts, SpanParts.value_ofSeconds]
  · rw [← String.toList_inj, toList_text, toList_text, seconds_eq, seconds_eq, hseconds]

/-- An hour, two minutes and five seconds. -/
example : (ofMillis 3725000).text = "1hr 02m 05s" := by decide +kernel

end Span

end RunReport
