import Mathlib.Data.List.Induction
import RunReport.Version

/-!
# Segments of Versions

How versions are cut into segments, and what several of them share at the front.

Merging works on texts: both versions are cut, the segments they share are kept, and these are
joined again. The next merge cuts the joined text anew. Cutting and joining undo each other for
every list of segments but one. No segments at all and a single empty segment are both joined to the
empty text, and cutting that gives the single empty segment back. So once two versions have nothing
in common, the merged text pretends to have a segment.

`mergedChars_joined` shows that this does no harm. If the pretended segment is shared with the next
version, it is all that is shared, and it is joined to the empty text again. A fold of merges
(`foldl_mergedChars`) is therefore the fold on lists of segments, joined once at the end, whatever
separators the versions begin or end with. On lists `commonFront` is a meet
(`prefix_commonFront_iff`), so the fold has the longest front that all of the lists share.

## Main definitions

* `LongestFront`: The longest list that all of some lists begin with.

## Theorems

* `segments_eq_splitOn`: Cutting at every separator is the cutting of lists.
* `segments_ne_nil`: A text has at least one segment.
* `segments_append`: Cutting starts anew behind every separator.
* `not_mem_of_mem_segments`, `mem_of_mem_segments`: The characters of segments.
* `joined_segments`, `segments_joined`: Cutting and joining undo each other.
* `joined_singleton`, `joined_cons`, `joined_cons_cons`, `forall_mem_joined`: What segments are
  joined to.
* `append_of_splitLast`, `splitLast_eq_none_iff`, `splitLast_eq_some_iff`: What the search for the
  last separator finds.
* `segments_shortChars_prefix`: A version begins with the segments of its short version.
* `LongestFront.unique`: The same lists have one longest front.
* `prefix_commonFront_iff`: What begins a common front begins both lists.
* `longestFront_concat`, `longestFront_foldl`: Common fronts of one list after the other.
* `mergedChars_joined`: Merging joined segments with a version.
* `foldl_mergedChars`: Merging joined segments with one version after the other.
-/

namespace RunReport

/-! ### Cutting and joining -/

section Cutting

variable (sep : Char)

/-- Cutting at every separator is the cutting of lists at an element. -/
theorem segments_eq_splitOn (v : List Char) : segments sep v = v.splitOn sep := by
  induction v with
  | nil => rfl
  | cons c cs ih =>
      rw [segments, ih, List.splitOn_cons_eq_if_modifyHead]
      by_cases hc : c = sep
      · rw [if_pos hc, if_pos (beq_iff_eq.mpr hc)]
      · rw [if_neg hc, if_neg fun h => hc (beq_iff_eq.mp h)]
        cases hcs : cs.splitOn sep with
        | nil => exact absurd hcs (List.splitOn_ne_nil sep cs)
        | cons s rest => rfl

theorem segments_ne_nil (v : List Char) : segments sep v ≠ [] := by
  rw [segments_eq_splitOn]
  exact List.splitOn_ne_nil sep v

/-- Cutting starts anew behind every separator. -/
theorem segments_append (v w : List Char) :
    segments sep (v ++ sep :: w) = segments sep v ++ segments sep w := by
  simp only [segments_eq_splitOn]
  exact List.splitOn_append_cons_self v w

/-- No segment has a separator. -/
theorem not_mem_of_mem_segments (v : List Char) : ∀ s ∈ segments sep v, sep ∉ s := by
  induction v with
  | nil => exact fun s hs => (List.mem_singleton.mp hs) ▸ List.not_mem_nil
  | cons c cs ih =>
      rw [segments]
      by_cases hc : c = sep
      · rw [if_pos hc, List.forall_mem_cons]
        exact ⟨List.not_mem_nil, ih⟩
      · rw [if_neg hc]
        cases hcs : segments sep cs with
        | nil => exact absurd hcs (segments_ne_nil sep cs)
        | cons s rest =>
            rw [hcs, List.forall_mem_cons] at ih
            rw [List.forall_mem_cons]
            refine ⟨fun hmem => ?_, ih.2⟩
            rcases List.mem_cons.mp hmem with hsep | hmem
            · exact hc hsep.symm
            · exact ih.1 hmem

/-- The characters of segments are those of the text. -/
theorem mem_of_mem_segments (v : List Char) : ∀ s ∈ segments sep v, ∀ c ∈ s, c ∈ v := by
  induction v with
  | nil => exact fun s hs => (List.mem_singleton.mp hs) ▸ fun c hc => hc
  | cons d cs ih =>
      have hrest : ∀ s ∈ segments sep cs, ∀ c ∈ s, c ∈ d :: cs := fun s hs c hc =>
        List.mem_cons_of_mem d (ih s hs c hc)
      rw [segments]
      by_cases hd : d = sep
      · rw [if_pos hd, List.forall_mem_cons]
        exact ⟨fun c hc => absurd hc List.not_mem_nil, hrest⟩
      · rw [if_neg hd]
        cases hcs : segments sep cs with
        | nil => exact absurd hcs (segments_ne_nil sep cs)
        | cons s rest =>
            rw [hcs, List.forall_mem_cons] at hrest
            simp only [List.forall_mem_cons]
            exact ⟨⟨List.mem_cons_self, hrest.1⟩, hrest.2⟩

/-- A text is joined again from its segments. -/
theorem joined_segments (v : List Char) : joined sep (segments sep v) = v := by
  rw [joined, segments_eq_splitOn]
  exact List.intercalate_splitOn sep

/-- Segments are cut again from the text that joins them, if there are any. -/
theorem segments_joined (parts : List (List Char)) (hne : parts ≠ [])
    (hplain : ∀ s ∈ parts, sep ∉ s) : segments sep (joined sep parts) = parts := by
  rw [joined, segments_eq_splitOn]
  exact List.splitOn_intercalate sep hplain hne

theorem joined_singleton (s : List Char) : joined sep [s] = s :=
  List.intercalate_singleton

theorem joined_cons (c : Char) (s : List Char) (rest : List (List Char)) :
    joined sep ((c :: s) :: rest) = c :: joined sep (s :: rest) := by
  cases rest with
  | nil => rfl
  | cons t rest =>
      rw [joined, joined, List.intercalate_cons_cons, List.intercalate_cons_cons]
      rfl

theorem joined_cons_cons (s t : List Char) (rest : List (List Char)) :
    joined sep (s :: t :: rest) = s ++ sep :: joined sep (t :: rest) := by
  rw [joined, List.intercalate_cons_cons, List.append_assoc]
  rfl

/-- What holds of the separator and of all characters of the segments holds of what joins them. -/
theorem forall_mem_joined (P : Char → Prop) (parts : List (List Char)) (hsep : P sep)
    (h : ∀ s ∈ parts, ∀ c ∈ s, P c) : ∀ c ∈ joined sep parts, P c := by
  induction parts with
  | nil => exact fun c hc => absurd hc List.not_mem_nil
  | cons s rest ih =>
      rw [List.forall_mem_cons] at h
      cases rest with
      | nil =>
          rw [joined, List.intercalate_singleton]
          exact h.1
      | cons t rest =>
          rw [joined_cons_cons, List.forall_mem_append, List.forall_mem_cons]
          exact ⟨h.1, hsep, ih h.2⟩

/-- The parts before and after the last separator, with the separator between them. -/
theorem append_of_splitLast (v front last : List Char) (h : splitLast sep v = some (front, last)) :
    v = front ++ sep :: last := by
  induction v generalizing front with
  | nil => exact absurd h (by simp only [splitLast, reduceCtorEq, not_false_eq_true])
  | cons c cs ih =>
      rw [splitLast] at h
      cases hcs : splitLast sep cs with
      | some parts =>
          rw [hcs] at h
          simp only [Option.some.injEq, Prod.mk.injEq] at h
          rcases h with ⟨rfl, hlast⟩
          rw [List.cons_append, ← ih parts.1 (by rw [hcs, ← hlast])]
      | none =>
          rw [hcs] at h
          by_cases hc : c = sep
          · simp only [if_pos hc, Option.some.injEq, Prod.mk.injEq] at h
            rw [← h.1, ← h.2, hc, List.nil_append]
          · simp only [if_neg hc, reduceCtorEq] at h

theorem splitLast_eq_none_iff (v : List Char) : splitLast sep v = none ↔ sep ∉ v := by
  induction v with
  | nil => simp only [splitLast, List.not_mem_nil, not_false_eq_true]
  | cons c cs ih =>
      rw [splitLast, List.mem_cons, not_or, ← ih]
      cases splitLast sep cs with
      | some found => simp only [reduceCtorEq, and_false]
      | none =>
          by_cases hc : c = sep
          · subst hc
            simp only [if_true, reduceCtorEq, not_true_eq_false, false_and]
          · simp only [if_neg hc, true_iff, and_true]
            exact fun hsep => hc hsep.symm

/-- The last separator is found with no other behind it. -/
theorem splitLast_append (front last : List Char) (h : sep ∉ last) :
    splitLast sep (front ++ sep :: last) = some (front, last) := by
  induction front with
  | nil =>
      have hnone := (splitLast_eq_none_iff sep last).mpr h
      simp only [List.nil_append, splitLast, hnone, if_true]
  | cons c front ih => simp only [List.cons_append, splitLast, ih]

theorem not_mem_of_splitLast (v front last : List Char) (h : splitLast sep v = some (front, last)) :
    sep ∉ last := by
  induction v generalizing front with
  | nil => exact absurd h (by simp only [splitLast, reduceCtorEq, not_false_eq_true])
  | cons c cs ih =>
      rw [splitLast] at h
      cases hcs : splitLast sep cs with
      | some found =>
          simp only [hcs, Option.some.injEq, Prod.mk.injEq] at h
          exact ih found.1 (by rw [hcs, ← h.2])
      | none =>
          -- Nothing was found in the rest, and that is what stands behind this separator.
          by_cases hc : c = sep
          · simp only [hcs, if_pos hc, Option.some.injEq, Prod.mk.injEq] at h
            rw [← h.2]
            exact (splitLast_eq_none_iff sep cs).mp hcs
          · simp only [hcs, if_neg hc, reduceCtorEq] at h

theorem splitLast_eq_some_iff (v front last : List Char) :
    splitLast sep v = some (front, last) ↔ v = front ++ sep :: last ∧ sep ∉ last := by
  constructor
  · exact fun h => ⟨append_of_splitLast sep v front last h, not_mem_of_splitLast sep v front last h⟩
  · rintro ⟨rfl, hlast⟩
    exact splitLast_append sep front last hlast

end Cutting

/-- A version begins with the segments of its short version. -/
theorem segments_shortChars_prefix (f : VersionFormat) (v : List Char) :
    segments f.separator (f.shortChars v) <+: segments f.separator v := by
  unfold VersionFormat.shortChars
  cases hv : splitLast f.separator v with
  | none => exact List.prefix_rfl
  | some parts =>
      rcases parts with ⟨front, last⟩
      cases front with
      | nil => exact List.prefix_rfl
      | cons c front =>
          have happend := append_of_splitLast f.separator v (c :: front) last hv
          have hcut := segments_append f.separator (c :: front) last
          rw [← happend] at hcut
          rw [hcut]
          exact List.prefix_append _ _

/-! ### Common fronts -/

section Fronts

variable {α : Type}

/-- The longest list that all of some lists begin with. -/
structure LongestFront (front : List α) (lists : List (List α)) : Prop where
  leads : ∀ l ∈ lists, front <+: l
  longest : ∀ other, (∀ l ∈ lists, other <+: l) → other <+: front

/-- The same lists have one longest front, whatever their order and number. -/
theorem LongestFront.unique (front front' : List α) (lists lists' : List (List α))
    (h : LongestFront front lists) (h' : LongestFront front' lists')
    (hsame : ∀ l, l ∈ lists ↔ l ∈ lists') : front = front' := by
  have hle : front <+: front' := h'.longest front fun l hl => h.leads l ((hsame l).mpr hl)
  have hge : front' <+: front := h.longest front' fun l hl => h'.leads l ((hsame l).mp hl)
  exact hle.eq_of_length_le hge.length_le

variable [DecidableEq α]

/-- What begins a common front begins both lists. -/
theorem prefix_commonFront_iff (other as bs : List α) :
    other <+: commonFront as bs ↔ other <+: as ∧ other <+: bs := by
  induction as generalizing other bs with
  | nil =>
      have hnone : commonFront [] bs = [] := rfl
      rw [hnone]
      exact ⟨fun h => ⟨h, h.trans List.nil_prefix⟩, fun h => h.1⟩
  | cons a as ih =>
      cases bs with
      | nil =>
          have hnone : commonFront (a :: as) [] = [] := rfl
          rw [hnone]
          exact ⟨fun h => ⟨h.trans List.nil_prefix, h⟩, fun h => h.2⟩
      | cons b bs =>
          rw [commonFront]
          by_cases hab : a = b
          · subst hab
            rw [if_pos rfl]
            cases other with
            | nil => simp only [List.nil_prefix, and_self]
            | cons o other =>
                rw [List.cons_prefix_cons, List.cons_prefix_cons, List.cons_prefix_cons, ih]
                exact and_and_left
          · rw [if_neg hab]
            refine ⟨fun h => ⟨h.trans List.nil_prefix, h.trans List.nil_prefix⟩, fun h => ?_⟩
            -- A list that is not empty cannot begin with `a` and with `b`.
            cases other with
            | nil => exact List.prefix_rfl
            | cons o other =>
                rw [List.cons_prefix_cons, List.cons_prefix_cons] at h
                exact absurd (h.1.1.symm.trans h.2.1) hab

/-- One more list: what is left is what it shares with the front so far. -/
theorem longestFront_concat (front : List α) (lists : List (List α)) (l : List α)
    (h : LongestFront front lists) : LongestFront (commonFront front l) (lists ++ [l]) := by
  have hboth := (prefix_commonFront_iff (commonFront front l) front l).mp List.prefix_rfl
  constructor
  case leads =>
    rw [List.forall_mem_append, List.forall_mem_singleton]
    exact ⟨fun l' hl' => hboth.1.trans (h.leads l' hl'), hboth.2⟩
  case longest =>
    intro other hother
    rw [List.forall_mem_append, List.forall_mem_singleton] at hother
    exact (prefix_commonFront_iff other front l).mpr ⟨h.longest other hother.1, hother.2⟩

/-- Going through some lists keeps what all of them share with the first one. -/
theorem longestFront_foldl (l : List α) (lists : List (List α)) :
    LongestFront (lists.foldl commonFront l) (l :: lists) := by
  induction lists using List.reverseRecOn with
  | nil =>
      refine ⟨fun l' hl' => ?_, fun other hother => hother l List.mem_cons_self⟩
      rw [List.mem_singleton.mp hl']
      exact List.prefix_rfl
  | append_singleton lists l' ih =>
      rw [List.foldl_append, ← List.cons_append]
      exact longestFront_concat _ (l :: lists) l' ih

end Fronts

/-! ### Merging -/

section Merging

variable (f : VersionFormat)

/-- Merging joined segments with a version joins what the segments share with it. -/
theorem mergedChars_joined (front : List (List Char)) (w : List Char)
    (hplain : ∀ s ∈ front, f.separator ∉ s) :
    f.mergedChars (joined f.separator front) w
      = joined f.separator (commonFront front (segments f.separator w)) := by
  by_cases hfront : front = []
  · -- The empty text has one empty segment, which joins to the empty text if it is shared.
    subst hfront
    rw [VersionFormat.mergedChars]
    cases hw : segments f.separator w with
    | nil => exact absurd hw (segments_ne_nil f.separator w)
    | cons s rest => cases s <;> rfl
  · rw [VersionFormat.mergedChars, segments_joined f.separator front hfront hplain]

/-- Merging joined segments with one version after the other does so with the segments. -/
theorem foldl_mergedChars (front : List (List Char)) (ws : List (List Char))
    (hplain : ∀ s ∈ front, f.separator ∉ s) :
    ws.foldl f.mergedChars (joined f.separator front)
      = joined f.separator ((ws.map (segments f.separator)).foldl commonFront front) := by
  induction ws generalizing front with
  | nil => rfl
  | cons w ws ih =>
      have hleft : commonFront front (segments f.separator w) <+: front :=
        ((prefix_commonFront_iff _ front _).mp List.prefix_rfl).1
      rw [List.foldl_cons, List.map_cons, List.foldl_cons, mergedChars_joined f front w hplain]
      exact ih _ fun s hs => hplain s (hleft.mem hs)

end Merging

end RunReport
