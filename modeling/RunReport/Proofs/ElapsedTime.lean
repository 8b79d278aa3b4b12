import RunReport.Page.Cell
import RunReport.Proofs.SuiteTotals
import RunReport.Time.Timestamp

/-!
# The Time a Test Took

When the time of a test is known, and what it is.

A test that ended before it started has no time. Which of two instants is the earlier one is a
matter of their days, seconds and nanoseconds, in this order, but the time of a test does not ask
for that. It takes the difference of the two instants and is unknown if the difference is negative.
The two questions have the same answer as long as the difference grows with the instant, and leap
seconds are where it might not: an instant in a leap second has up to two seconds of nanoseconds.
The difference makes up for them if the clock shows a later time of day at the end than at the start
(`leapCorrection`).

Across midnight it does not, because there the clock goes back. As long as more than a second lies
between the two, this does no harm, since the seconds outweigh the nanoseconds
(`since_pos_of_before`). What is left are the last second of a day and the first of the next
(`Adjoins`), and this is where leap seconds are put. From a leap second there to the second after it
the difference can be negative or zero although time has passed, and back again it can be positive
(`since_of_adjoins`). `Misjudged` names the pairs that are hurt, and `elapsed?_eq_none_iff_before`
says that the time is lost in the right cases exactly if the pair is not one of them.

## Main definitions

* `Instant.epochNanos`: Nanoseconds since the start of 1970, without leap seconds.
* `Instant.Adjoins`: The last second of a day and the first of the next.
* `Instant.reach`: How far an instant lies behind the start of the second before it.
* `Instant.Misjudged`: A start and an end whose difference has the wrong sign.
* `TestRecord.InRange`: Start and end lie in the range of instants.

## Theorems

* `Instant.isLeap_iff`, `Instant.not_isLeap_iff`: Leap seconds by their nanoseconds.
* `Instant.trichotomy`, `Instant.not_before_of_before`, `Instant.not_before_self`: The order of
  instants is total.
* `Instant.leapCorrection_swap`, `Instant.since_swap`, `Instant.since_self`: The difference changes
  its sign with its direction.
* `Instant.since_of_not_isLeap`: Without leap seconds it is the difference of nanoseconds.
* `Instant.since_pos_of_before`, `Instant.since_of_adjoins`: The sign of the difference.
* `Instant.before_of_adjoins`: A day comes before the next.
* `Instant.elapsed?_eq_none_iff`: The time is lost if the difference is negative.
* `Instant.elapsed?_eq_none_iff_before`: When the time is lost in the right cases.
* `Instant.isLeap_of_misjudged`: Only leap seconds are misjudged.
* `Timestamp.inRange_of_instant?`, `Timestamp.inRange_of_read?`: What is read lies in the range.
* `Timestamp.inRange_iff`, `Instant.natAbs_since_lt`: Differences in the range are far from the
  limits.
* `Instant.nanos_of_elapsed?`: A time that is known is the difference.
* `Span.text_ne_blank`, `Page.elapsedText_eq_blank_iff`: Which cells are blank.
* `TestRecord.elapsed_of_timestamps`: When the time of a test is known, and what it is.
* `TestRecord.elapsed_of_timestamps_noon`: A test at noon, whose time is known.
* `TestRecord.elapsed_across_midnight`: A test whose time is lost in a leap second.
-/

namespace RunReport

namespace Instant

/-- Nanoseconds since the start of 1970. A leap second counts as part of the second before it. -/
def epochNanos (a : Instant) : Int :=
  a.epochSeconds * 1000000000 + a.nano

theorem isLeap_iff (a : Instant) : a.isLeap = true ↔ 1000000000 ≤ a.nano :=
  decide_eq_true_iff

theorem not_isLeap_iff (a : Instant) : a.isLeap = false ↔ a.nano < 1000000000 := by
  rw [← Bool.not_eq_true, isLeap_iff, Nat.not_le]

/-! ### The order of instants -/

/-- Of two instants one is the earlier, if they are not the same. -/
theorem trichotomy (a b : Instant) : a.Before b ∨ a = b ∨ b.Before a := by
  have hsame : a.day = b.day → a.second = b.second → a.nano = b.nano → a = b := by
    intro hday hsecond hnano
    cases a
    cases b
    cases hday
    cases hsecond
    cases hnano
    rfl
  unfold Before
  by_cases hday : a.day = b.day
  · by_cases hsecond : a.second = b.second
    · by_cases hnano : a.nano = b.nano
      · exact .inr (.inl (hsame hday hsecond hnano))
      · omega
    · omega
  · omega

theorem not_before_of_before (a b : Instant) (h : a.Before b) : ¬ b.Before a := by
  unfold Before at h ⊢
  omega

theorem not_before_self (a : Instant) : ¬ a.Before a := by
  unfold Before
  omega

/-! ### Differences -/

/-- In the other direction leap seconds are made up for with the other sign. -/
theorem leapCorrection_swap (a b : Instant) : a.leapCorrection b = -b.leapCorrection a := by
  unfold leapCorrection
  rcases Nat.lt_trichotomy a.second b.second with hlt | heq | hgt
  · have hnot : ¬ b.second < a.second := by omega
    rw [if_neg hnot, if_pos hlt, if_pos hlt]
    cases a.isLeap <;> rfl
  · simp only [heq, Nat.lt_irrefl, if_false]
    rfl
  · have hnot : ¬ a.second < b.second := by omega
    rw [if_pos hgt, if_neg hnot, if_pos hgt]
    cases b.isLeap <;> rfl

theorem since_swap (a b : Instant) : a.since b = -b.since a := by
  unfold since
  rw [leapCorrection_swap a b]
  omega

theorem since_self (a : Instant) : a.since a = 0 := by
  have hswap := since_swap a a
  omega

/-- Without leap seconds the difference is that of the nanoseconds. -/
theorem since_of_not_isLeap (a b : Instant) (ha : a.isLeap = false) (hb : b.isLeap = false) :
    b.since a = b.epochNanos - a.epochNanos := by
  have hcorrection : b.leapCorrection a = 0 := by
    unfold leapCorrection
    rw [ha, hb]
    simp only [Bool.false_eq_true, if_false, ite_self]
  unfold since epochNanos
  rw [hcorrection]
  omega

/-- One instant lies in the last second of a day and the other in the first of the next. -/
def Adjoins (a b : Instant) : Prop :=
  b.day = a.day + 1 ∧ a.second = 86399 ∧ b.second = 0

theorem before_of_adjoins (a b : Instant) (h : a.Adjoins b) : a.Before b := by
  have hday := h.1
  exact .inl (by omega)

/-- How many nanoseconds an instant lies behind the start of the second before it. In a leap second
    the instant has that second counted already. -/
def reach (b : Instant) : Nat :=
  if b.isLeap then b.nano else b.nano + 1000000000

/-- Across midnight leap seconds are not made up for. -/
theorem since_of_adjoins (a b : Instant) (h : a.Adjoins b) :
    b.since a = (b.reach : Int) - a.nano := by
  rcases h with ⟨hday, hlast, hfirst⟩
  have hnot : ¬ a.second < b.second := by omega
  have hback : b.second < a.second := by omega
  unfold since leapCorrection reach epochSeconds
  rw [if_neg hnot, if_pos hback, hday, hlast, hfirst]
  cases b.isLeap with
  | true =>
      simp only [if_true]
      omega
  | false =>
      simp only [Bool.false_eq_true, if_false]
      omega

/-- From an earlier instant to a later one the difference is positive, unless midnight is all that
    lies between their seconds. -/
theorem since_pos_of_before (a b : Instant) (h : a.Before b) (hmidnight : ¬ a.Adjoins b) :
    0 < b.since a := by
  have ha := a.nano_lt
  have hb := b.nano_lt
  have halast := a.second_lt
  unfold Before at h
  unfold Adjoins at hmidnight
  unfold since leapCorrection epochSeconds
  rcases Nat.lt_trichotomy a.second b.second with hlt | heq | hgt
  · -- The clock goes forward. A leap second at the start is a second more.
    rw [if_pos hlt]
    cases hleap : a.isLeap with
    | true =>
        simp only [if_true]
        omega
    | false =>
        rw [not_isLeap_iff] at hleap
        simp only [Bool.false_eq_true, if_false]
        omega
  · -- The clock stands still, and nothing is made up for. Days or nanoseconds decide.
    rw [heq, if_neg (Nat.lt_irrefl _), if_neg (Nat.lt_irrefl _)]
    omega
  · -- The clock goes back, so there is a midnight between them, and then two seconds or more.
    have hnot : ¬ a.second < b.second := by omega
    rw [if_neg hnot, if_pos hgt]
    cases hleap : b.isLeap with
    | true =>
        rw [isLeap_iff] at hleap
        simp only [if_true]
        omega
    | false =>
        simp only [Bool.false_eq_true, if_false]
        omega

/-- The difference from a start to an end has the wrong sign: it is negative from a leap second at
    the end of a day, or it is not negative back to one. -/
def Misjudged (start finish : Instant) : Prop :=
  (start.Adjoins finish ∧ finish.reach < start.nano) ∨
    (finish.Adjoins start ∧ start.reach ≤ finish.nano)

theorem elapsed?_eq_none_iff (start finish : Instant) :
    elapsed? start finish = none ↔ finish.since start < 0 := by
  unfold elapsed?
  by_cases h : finish.since start < 0
  · simp only [h, if_true]
  · simp only [h, if_false, reduceCtorEq]

/-- The time is lost in the right cases exactly if the difference has the right sign. -/
theorem elapsed?_eq_none_iff_before (start finish : Instant) :
    (elapsed? start finish = none ↔ finish.Before start) ↔ ¬ Misjudged start finish := by
  rw [elapsed?_eq_none_iff]
  unfold Misjudged
  -- The difference is computed forward only. Backward it is the same with the other sign.
  rcases trichotomy start finish with hbefore | rfl | hafter
  · have hnot := not_before_of_before start finish hbefore
    have hback : ¬ finish.Adjoins start := fun h => hnot (before_of_adjoins finish start h)
    by_cases hmidnight : start.Adjoins finish
    · have hdiff := since_of_adjoins start finish hmidnight
      simp only [hnot, hback, hmidnight, true_and, false_and, or_false, iff_false]
      omega
    · have hdiff := since_pos_of_before start finish hbefore hmidnight
      have hpos : ¬ finish.since start < 0 := by omega
      simp only [hnot, hback, hmidnight, hpos, false_and, or_self, not_false_eq_true]
  · -- An instant is not the next day's.
    have hnot := not_before_self start
    have hsame : ¬ start.Adjoins start := fun h => hnot (before_of_adjoins start start h)
    simp only [since_self, hnot, hsame, Int.lt_irrefl, false_and, or_self, not_false_eq_true]
  · have hnot := not_before_of_before finish start hafter
    have hback : ¬ start.Adjoins finish := fun h => hnot (before_of_adjoins start finish h)
    have hswap := since_swap finish start
    by_cases hmidnight : finish.Adjoins start
    · have hdiff := since_of_adjoins finish start hmidnight
      simp only [hafter, hback, hmidnight, true_and, false_and, false_or, iff_true]
      omega
    · have hdiff := since_pos_of_before finish start hafter hmidnight
      have hneg : finish.since start < 0 := by omega
      simp only [hafter, hback, hmidnight, hneg, false_and, or_self, not_false_eq_true]

/-- Only leap seconds are misjudged. -/
theorem isLeap_of_misjudged (start finish : Instant) (h : Misjudged start finish) :
    start.isLeap = true ∨ finish.isLeap = true := by
  have hreach : ∀ a : Instant, 1000000000 ≤ a.reach := by
    intro a
    unfold reach
    by_cases hleap : a.isLeap
    · rw [if_pos hleap]
      exact (isLeap_iff a).mp hleap
    · rw [if_neg hleap]
      omega
  rw [isLeap_iff, isLeap_iff]
  rcases h with ⟨-, hlost⟩ | ⟨-, hwon⟩
  · exact .inl (Nat.le_of_lt (Nat.lt_of_le_of_lt (hreach finish) hlost))
  · exact .inr (Nat.le_trans (hreach start) hwon)

end Instant

/-! ### The range of instants -/

namespace Timestamp

/-- The range of instants in days from the start of 1970. -/
theorem inRange_iff (day : Int) : inRange day = true ↔ -96465292 ≤ day ∧ day ≤ 95026236 := by
  have hfirst : firstDay = -96465292 := by decide +kernel
  have hlast : lastDay = 95026236 := by decide +kernel
  rw [inRange, Bool.and_eq_true, decide_eq_true_eq, decide_eq_true_eq, hfirst, hlast]

theorem inRange_of_instant? (date : Date) (hour minute second nano : Nat) (ahead : Int)
    (i : Instant) (h : instant? date hour minute second nano ahead = some i) :
    inRange i.day := by
  unfold instant? at h
  simp only [Option.ite_none_right_eq_some, Option.dite_none_right_eq_some,
    Option.some.injEq] at h
  rcases h with ⟨-, -, hday, rfl⟩
  exact hday

/-- Every instant that is read lies in the range. -/
theorem inRange_of_read? (s : String) (i : Instant) (h : read? s = some i) : inRange i.day := by
  unfold read? at h
  -- The date, before the sign between date and time, which is not a step of its own.
  iterate 5 rcases Option.bind_eq_some_iff.mp h with ⟨_, -, h⟩
  dsimp only at h
  split at h
  · split at h
    · -- The sign, the time of day, and how far it is ahead.
      iterate 8 rcases Option.bind_eq_some_iff.mp h with ⟨_, -, h⟩
      rcases Option.ite_none_right_eq_some.mp h with ⟨-, h⟩
      exact inRange_of_instant? _ _ _ _ _ _ i h
    · cases h
  · cases h

end Timestamp

namespace Instant

/-- The milliseconds between two instants in the range fit 64 bits with a sign. -/
theorem natAbs_since_lt (a b : Instant) (ha : Timestamp.inRange a.day)
    (hb : Timestamp.inRange b.day) : (b.since a).natAbs < Word.signedLimit * 1000000 := by
  have hcorrection : b.leapCorrection a ≤ 1 ∧ -1 ≤ b.leapCorrection a := by
    unfold leapCorrection
    repeat' split
    all_goals omega
  have hlimit : Word.signedLimit = 9223372036854775808 := rfl
  have hasecond := a.second_lt
  have hbsecond := b.second_lt
  have hanano := a.nano_lt
  have hbnano := b.nano_lt
  rw [Timestamp.inRange_iff] at ha hb
  unfold since epochSeconds
  omega

/-- A time that is known is the difference, and the longest span does not cut it off. -/
theorem nanos_of_elapsed? (start finish : Instant) (d : Span)
    (hstart : Timestamp.inRange start.day) (hfinish : Timestamp.inRange finish.day)
    (h : elapsed? start finish = some d) : (d.nanos : Int) = finish.since start := by
  have hbound := natAbs_since_lt start finish hstart hfinish
  unfold elapsed? at h
  by_cases hneg : finish.since start < 0
  · simp only [hneg, if_true, reduceCtorEq] at h
  · simp only [hneg, if_false, Option.some.injEq] at h
    have hcount := Word.count_eq
    have hlongest : Span.longest = Word.count * 1000000000 - 1 := rfl
    rw [← h, Span.nanos_ofNanos]
    omega

end Instant

/-! ### Records -/

/-- The text of a span ends in its unit, so it is not that of a cell without a value. -/
theorem Span.text_ne_blank (d : Span) : d.text ≠ Page.blank := by
  intro h
  have hlast : d.text.toList.getLast? = some 's' := by
    rw [Span.text, String.toList_append, List.getLast?_append]
    rfl
  rw [h] at hlast
  exact absurd hlast (by decide)

/-- A cell for the time of a test is blank if the time is not known. -/
theorem Page.elapsedText_eq_blank_iff (t : TestRecord) :
    elapsedText t = blank ↔ t.elapsed? = none := by
  unfold elapsedText
  cases t.elapsed? with
  | none => exact iff_of_true rfl rfl
  | some d => exact iff_of_false d.text_ne_blank (Option.some_ne_none d)

namespace TestRecord

/-- Start and end of a test lie in the range of instants. -/
def InRange (t : TestRecord) : Prop :=
  ∀ i : Instant, (t.start = some i ∨ t.finish = some i) → Timestamp.inRange i.day

/-- The time of a test is not known if it has no start or no end. If it has both, the time is lost
    exactly if the end is before the start, unless the two are misjudged. A time that is known is
    the difference of the two, which is far from any limit. Without leap seconds no test is
    misjudged, and the difference is that of the nanoseconds. The cell is blank if the time is not
    known. -/
theorem elapsed_of_timestamps (t : TestRecord) (ht : t.InRange) :
    ((t.start = none ∨ t.finish = none) → t.elapsed? = none) ∧
    (∀ a b : Instant, t.start = some a → t.finish = some b →
      ((t.elapsed? = none ↔ b.Before a) ↔ ¬ Instant.Misjudged a b) ∧
      (∀ d : Span, t.elapsed? = some d → (d.nanos : Int) = b.since a) ∧
      (b.since a).natAbs < Word.signedLimit * 1000000 ∧
      (a.isLeap = false → b.isLeap = false →
        ¬ Instant.Misjudged a b ∧ b.since a = b.epochNanos - a.epochNanos)) ∧
    (Page.elapsedText t = Page.blank ↔ t.elapsed? = none) := by
  refine ⟨?_, fun a b hstart hfinish => ?_, Page.elapsedText_eq_blank_iff t⟩
  · unfold elapsed?
    rintro (hstart | hfinish)
    · rw [hstart]
    · rw [hfinish]
      cases t.start <;> rfl
  · have ha := ht a (.inl hstart)
    have hb := ht b (.inr hfinish)
    have helapsed : t.elapsed? = Instant.elapsed? a b := by
      rw [elapsed?, hstart, hfinish]
    rw [helapsed]
    refine ⟨Instant.elapsed?_eq_none_iff_before a b, fun d => Instant.nanos_of_elapsed? a b d ha hb,
      Instant.natAbs_since_lt a b ha hb, fun hleap hleap' =>
      ⟨fun h => ?_, Instant.since_of_not_isLeap a b hleap hleap'⟩⟩
    -- Only a leap second is misjudged, on one side or on the other.
    rcases Instant.isLeap_of_misjudged a b h with h | h
    · rw [hleap] at h
      cases h
    · rw [hleap'] at h
      cases h

/-- A second and a half at noon. -/
theorem elapsed_of_timestamps_noon :
    let a : Instant := ⟨18414, 43200, 0, by decide, by decide⟩
    let b : Instant := ⟨18414, 43201, 500000000, by decide, by decide⟩
    let t : TestRecord := { id := 1, displayName := "login", start := some a, finish := some b }
    Timestamp.read? "2020-06-01T12:00:00Z" = some a ∧
    Timestamp.read? "2020-06-01T12:00:01.5Z" = some b ∧
    t.InRange ∧ (t.elapsed? = none ↔ b.Before a) ∧
    (∀ d : Span, t.elapsed? = some d → (d.nanos : Int) = b.epochNanos - a.epochNanos) ∧
    b.epochNanos - a.epochNanos = 1500000000 ∧ Page.elapsedText t ≠ Page.blank := by
  intro a b t
  have ha : Timestamp.read? "2020-06-01T12:00:00Z" = some a := by decide +kernel
  have hb : Timestamp.read? "2020-06-01T12:00:01.5Z" = some b := by decide +kernel
  have ht : t.InRange := by
    rintro i (hi | hi)
    · exact Timestamp.inRange_of_read? _ i (ha.trans hi)
    · exact Timestamp.inRange_of_read? _ i (hb.trans hi)
  rcases elapsed_of_timestamps t ht with ⟨-, hboth, hblank⟩
  rcases hboth a b rfl rfl with ⟨hlost, hnanos, -, hplain⟩
  -- Neither end is in a leap second.
  rcases hplain (by decide) (by decide) with ⟨hjudged, hdiff⟩
  have hknown : t.elapsed? ≠ none := by decide +kernel
  exact ⟨ha, hb, ht, hlost.mpr hjudged, fun d hd => hdiff ▸ hnanos d hd, by decide,
    mt hblank.mp hknown⟩

/-- From the leap second at the end of 2016 into the new year three quarters of a second pass. A
    test that took this time has none, and one that ended before it started, by as much, has one. -/
theorem elapsed_across_midnight :
    let a : Instant := ⟨17166, 86399, 1500000000, by decide, by decide⟩
    let b : Instant := ⟨17167, 0, 250000000, by decide, by decide⟩
    let t : TestRecord := { id := 1, displayName := "login", start := some a, finish := some b }
    let back : TestRecord := { t with start := some b, finish := some a }
    Timestamp.read? "2016-12-31T23:59:60.5Z" = some a ∧
    Timestamp.read? "2017-01-01T00:00:00.25Z" = some b ∧
    a.Before b ∧ ¬ b.Before a ∧
    t.elapsed? = none ∧ Page.elapsedText t = Page.blank ∧
    ¬ (t.elapsed? = none ↔ b.Before a) ∧
    back.elapsed?.map Span.nanos = some 250000000 ∧ ¬ (back.elapsed? = none ↔ a.Before b) := by
  intro a b t back
  have hbefore : a.Before b := .inl (by decide)
  have hnot := Instant.not_before_of_before a b hbefore
  have hlost : t.elapsed? = none := by decide +kernel
  -- The other way about, the end before the start has a time.
  have hwon : back.elapsed?.map Span.nanos = some 250000000 := by decide +kernel
  refine ⟨by decide +kernel, by decide +kernel, hbefore, hnot, hlost,
    (Page.elapsedText_eq_blank_iff t).mpr hlost, fun h => hnot (h.mp hlost), hwon, fun h => ?_⟩
  rw [h.mpr hbefore] at hwon
  cases hwon

end TestRecord

end RunReport
