import RunReport.Page.SuiteList
import RunReport.Page.TestHistory
import RunReport.Page.TestList
import RunReport.Proofs.Filling
import RunReport.Proofs.Numeral

/-!
# Texts That Need No Escape

The texts that the pages put in as they are.

A template escapes what comes from a record. Numbers, points in time, lengths of time, statuses and
style classes it puts in as they are, because the program writes them itself. None of them can have
an angle bracket: numerals are made of digits, and everything else is one of a few words, or words
and numerals one after the other.

## Main definitions

* `HistoryRowClasses.Inert`, `SuiteRowClasses.Inert`: All style classes of a row are inert.

## Theorems

* `inert_text`, `inert_padded`, `inert_signedText`, `inert_count`: Numerals are inert.
* `inert_spanText`, `inert_shortText`: So are lengths of time and points in time.
* `inert_label`, `inert_shade`, `inert_columnClass`: So are statuses and style classes.
* `inert_ofClassification`, `inert_classes`: So are all style classes of a row.
* `inert_elapsedText`, `inert_timeText`, `inert_totalText`: So are the cells made from them.
-/

namespace RunReport

open Markup

/-! ### Numerals -/

theorem inert_empty : Inert "" := by
  decide

/-- A text that is written with digits only is inert. -/
theorem inert_of_isDigit (cs : List Char) (h : ∀ c ∈ cs, c.isDigit) : Inert (String.ofList cs) := by
  unfold Inert
  rw [String.toList_ofList]
  exact fun hc => absurd (h '<' hc) (by decide)

theorem inert_text (n : Nat) : Inert (Numeral.text n) :=
  inert_of_isDigit _ (Numeral.isDigit_of_mem_decimal n)

theorem inert_padded (width n : Nat) : Inert (Numeral.padded width n) := by
  refine inert_of_isDigit _ fun c hc => ?_
  rcases List.mem_append.mp hc with hc | hc
  · rw [List.eq_of_mem_replicate hc]
    decide
  · exact Numeral.isDigit_of_mem_decimal n c hc

theorem inert_signedText (i : Int) : Inert (Numeral.signedText i) := by
  unfold Numeral.signedText
  split
  · exact inert_append _ _ (by decide) (inert_text _)
  · exact inert_text _

theorem inert_count (n : Nat) : (Template.Value.count n).Inert :=
  inert_signedText _

/-! ### Times -/

theorem inert_hoursText (hours : Nat) : Inert (Span.hoursText hours) := by
  unfold Span.hoursText
  split
  · exact inert_empty
  · exact inert_append _ _ (inert_text _) (by decide)

theorem inert_minutesText (hours minutes : Nat) : Inert (Span.minutesText hours minutes) := by
  unfold Span.minutesText
  split
  · exact inert_empty
  · split
    · exact inert_append _ _ (inert_append _ _ (by decide) (inert_text _)) (by decide)
    · exact inert_append _ _ (inert_append _ _ (by decide) (inert_padded _ _)) (by decide)

theorem inert_spanText (s : Span) : Inert s.text := by
  have hparts := inert_append _ _ (inert_hoursText (s.seconds / 60 / 60))
    (inert_minutesText (s.seconds / 60 / 60) (s.seconds / 60 % 60))
  have hblank := inert_append _ " " hparts (by decide)
  exact inert_append _ "s" (inert_append _ _ hblank (inert_padded 2 (s.seconds % 60))) (by decide)

theorem inert_yearText (year : Int) : Inert (Instant.yearText year) := by
  unfold Instant.yearText
  split
  · exact inert_padded _ _
  · refine inert_append _ _ ?_ (inert_padded _ _)
    split <;> decide

theorem inert_clockText (a : Instant) : Inert a.clockText := by
  have hhours := inert_append _ ":" (inert_padded 2 (a.second / 3600)) (by decide)
  have hminutes := inert_append _ ":"
    (inert_append _ _ hhours (inert_padded 2 (a.second / 60 % 60))) (by decide)
  exact inert_append _ _ hminutes (inert_padded 2 a.shownSecond)

theorem inert_shortText (a : Instant) : Inert a.shortText := by
  let d := Date.ofDayNumber a.day
  have hyear := inert_append _ "-" (inert_yearText d.year) (by decide)
  have hmonth := inert_append _ "-" (inert_append _ _ hyear (inert_padded 2 d.month)) (by decide)
  have hday := inert_append _ " " (inert_append _ _ hmonth (inert_padded 2 d.day)) (by decide)
  exact inert_append _ _ hday (inert_clockText a)

/-! ### Words -/

theorem inert_label (s : Status) : Inert s.label := by
  cases s <;> decide

theorem inert_rowClass (h : Highlight) : Inert h.rowClass := by
  cases h <;> decide

theorem inert_columnClass (h : Highlight) : Inert h.columnClass := by
  cases h <;> decide

theorem inert_shade (number : Nat) : Inert (TestListPage.shade number) := by
  unfold TestListPage.shade
  split <;> decide

/-- The style class of a highlight, or else another one. -/
theorem inert_getD {α : Type} (f : α → String) (x : Option α) (other : String)
    (hf : ∀ a, Inert (f a)) (hother : Inert other) : Inert ((x.map f).getD other) := by
  cases x with
  | none => exact hother
  | some a => exact hf a

/-- All style classes of a row of the history are inert. -/
structure HistoryRowClasses.Inert (c : HistoryRowClasses) : Prop where
  row : Markup.Inert c.row
  status : Markup.Inert c.status
  time : Markup.Inert c.time

theorem inert_ofClassification (c : Classification) :
    (HistoryRowClasses.ofClassification c).Inert := by
  unfold HistoryRowClasses.ofClassification
  have htiming := inert_rowClass .timing
  cases c.duration with
  | some h =>
      exact ⟨inert_getD _ _ _ inert_rowClass htiming, inert_getD _ _ _ inert_columnClass htiming,
        inert_columnClass h⟩
  | none =>
      exact ⟨inert_getD _ _ _ inert_rowClass inert_empty,
        inert_getD _ _ _ inert_columnClass inert_empty,
        inert_getD _ _ _ inert_rowClass inert_empty⟩

/-- All style classes of a line of suites are inert. -/
structure SuiteRowClasses.Inert (c : SuiteRowClasses) : Prop where
  row : Markup.Inert c.row
  passing : Markup.Inert c.passing
  failing : Markup.Inert c.failing
  skipped : Markup.Inert c.skipped
  long : Markup.Inert c.long
  total : Markup.Inert c.total

theorem inert_filled (h : Highlight) : (SuiteRowClasses.filled h).Inert :=
  ⟨inert_rowClass h, inert_rowClass h, inert_rowClass h, inert_rowClass h, inert_rowClass h,
    inert_rowClass h⟩

theorem inert_noClasses : ({} : SuiteRowClasses).Inert :=
  ⟨inert_empty, inert_empty, inert_empty, inert_empty, inert_empty, inert_empty⟩

theorem inert_classes (s : SuiteSummary) (criteria : HighlightCriteria) :
    (s.classes criteria).Inert := by
  unfold SuiteSummary.classes
  by_cases hincomplete : s.totals.isIncomplete
  · rw [if_pos hincomplete]
    exact { inert_filled .warning with total := inert_columnClass .warning }
  rw [if_neg hincomplete]
  cases criteria with
  | none => exact inert_noClasses
  | failing =>
      -- Only here does one column choose between two highlights.
      have hlong : Markup.Inert (if 0 < s.totals.long then Highlight.timing.columnClass
          else Highlight.error.rowClass) := by
        split
        · exact inert_columnClass .timing
        · exact inert_rowClass .error
      simp only
      split
      · exact { inert_filled .error with failing := inert_columnClass .error, long := hlong }
      · split
        · exact { inert_filled .timing with long := inert_columnClass .timing }
        · exact inert_noClasses
  | passing =>
      simp only
      split
      · exact { inert_filled .warning with passing := inert_columnClass .warning }
      · exact inert_noClasses
  | skipped =>
      simp only
      split
      · exact { inert_filled .warning with skipped := inert_columnClass .warning }
      · exact inert_noClasses

/-! ### Cells -/

namespace Page

theorem inert_blank : Inert blank := by
  decide

theorem inert_elapsedText (t : TestRecord) : Inert (elapsedText t) :=
  inert_getD _ _ _ inert_spanText inert_blank

theorem inert_timeText (t : Option Instant) : Inert (timeText t) :=
  inert_getD _ _ _ inert_shortText inert_blank

theorem inert_totalText (t : SuiteTotals) : Inert (SuiteListPage.totalText t) := by
  unfold SuiteListPage.totalText
  split
  · exact inert_append _ _ (inert_append _ _ (inert_text _) (by decide)) (inert_text _)
  · exact inert_text _

end Page

end RunReport
