import RunReport.Proofs.MergedVersion

/-!
# Where Versions Are Cut

The short version and the version number as parts of a version.

Both are found by a search for the last separator from the end, which gives up if it finds it at the
very start. Merging cuts a version at every separator, from the front. The two views differ in one
place: a separator at the start is a cut for merging, and belongs to the first part for the search.
`IsCut` describes the parts that the search sees, and there is only one way to have them
(`isCut_iff`). The last part stands behind the last cut, so dropping it is what one search does
(`shortChars_concat`), and taking it is what the next one does (`lastChars_concat`).

The parts in front of a cut are cut in the same places (`IsCut.front`), so the second search finds
the last part of the short version, and the number of a version of one part is that part.

A version is stored as bytes, and the searches find offsets among those. `Slices` says what is taken
from the bytes: each offset is between two characters, even where the separator has several bytes,
and the bytes up to it or from it are those of the short version or of the number.

## Main definitions

* `parts`: A text cut at every separator but one at its very start.
* `IsCut`: What such parts are.
* `VersionFormat.lastChars`: What stands behind the last cut.
* `VersionFormat.partsOf`: The parts of a version.
* `LastAt`: Where in the bytes of a text a character stands for the last time.
* `IsFrontTo`, `IsBackFrom`: The bytes of a text up to an offset, and from it.
* `VersionFormat.Slices`: What is taken from the bytes of a version.

## Theorems

* `isCut_iff`: A text has one cut.
* `IsCut.front`: The parts in front of the last one.
* `one_or_more`: A cut has one part or more.
* `shortChars_concat`, `lastChars_concat`, `shortChars_single`: The searches on parts.
* `shortChars_of_isCut`, `numberChars_of_isCut`: What they find, by the number of parts.
* `exists_of_two_le`: A version of several parts, with its short version at the front.
* `merged_of_short_eq`: Versions that differ in the last part only.
* `slices`: Both versions are whole characters.
* `short_number_parts`: The short version and the number as parts of a version.
* `short_number_parts_table`: Separators of three bytes at both ends and beside each other.
-/

namespace RunReport

section Parts

variable (sep : Char)

/-- A text cut at every separator but one at its very start, which belongs to the first part. -/
def parts : List Char → List (List Char)
  | [] => [[]]
  | c :: cs => (segments sep cs).modifyHead (c :: ·)

/-- Some parts are a text cut at every separator but one at its start: joined they are the text, no
    separator is left in them except as the first character of the first one, and the text is not
    cut at its start. -/
structure IsCut (v : List Char) (ps : List (List Char)) : Prop where
  joined_eq : joined sep ps = v
  ne_nil : ps ≠ []
  first : ∀ s ∈ ps.head?, sep ∉ s.tail
  others : ∀ s ∈ ps.tail, sep ∉ s
  start : ps.head? = some [] → ps.tail = []

/-! ### The search for the last separator -/

/-- Without a separator behind its start a text has none to be cut at. -/
theorem eq_nil_of_splitLast (v front last : List Char) (h : sep ∉ v.tail)
    (hsome : splitLast sep v = some (front, last)) : front = [] := by
  rcases (splitLast_eq_some_iff sep v front last).mp hsome with ⟨rfl, -⟩
  cases front with
  | nil => rfl
  | cons c front =>
      rw [List.cons_append, List.tail_cons] at h
      exact absurd (List.mem_append_right front List.mem_cons_self) h

/-! ### Parts -/

theorem joined_concat (ps : List (List Char)) (last : List Char) (hne : ps ≠ []) :
    joined sep (ps ++ [last]) = joined sep ps ++ sep :: last := by
  induction ps with
  | nil => exact absurd rfl hne
  | cons s rest ih =>
      cases rest with
      | nil => simp only [joined, List.cons_append, List.nil_append, List.intercalate_cons_cons,
          List.intercalate_singleton, List.append_assoc]
      | cons t rest =>
          have hrest := ih (List.cons_ne_nil t rest)
          rw [joined, List.cons_append] at hrest
          rw [joined, joined, List.cons_append, List.cons_append, List.intercalate_cons_cons,
            List.intercalate_cons_cons, hrest]
          simp only [joined, List.append_assoc]

/-- A text without a separator is one segment. -/
theorem segments_of_not_mem (s : List Char) (h : sep ∉ s) : segments sep s = [s] := by
  have hcut := segments_joined sep [s] (List.cons_ne_nil s []) fun t ht =>
    List.mem_singleton.mp ht ▸ h
  rwa [joined_singleton] at hcut

theorem isCut_parts (v : List Char) : IsCut sep v (parts sep v) := by
  cases v with
  | nil =>
      refine ⟨rfl, List.cons_ne_nil _ _, fun s hs => ?_, fun s hs => ?_, fun _ => rfl⟩
      · rw [← Option.mem_some_iff.mp hs]
        exact List.not_mem_nil
      · exact absurd hs List.not_mem_nil
  | cons c cs =>
      have hplain := not_mem_of_mem_segments sep cs
      have hjoined := joined_segments sep cs
      rw [parts]
      cases hcs : segments sep cs with
      | nil => exact absurd hcs (segments_ne_nil sep cs)
      | cons s rest =>
          rw [hcs] at hplain hjoined
          rw [List.forall_mem_cons] at hplain
          -- A separator cuts only where something stands in front of it, so the first character
          -- belongs to the first part whatever it is.
          refine ⟨?_, List.cons_ne_nil _ _, fun t ht => ?_, hplain.2, fun hstart => ?_⟩
          · rw [List.modifyHead_cons, joined_cons, hjoined]
          · rw [← Option.mem_some_iff.mp ht]
            exact hplain.1
          · simp only [List.modifyHead_cons, List.head?_cons, Option.some.injEq, reduceCtorEq]
              at hstart

/-- A text can be cut in one way. Behind its first character the parts are its segments, and those
    are given by the text. -/
theorem isCut_iff (v : List Char) (ps : List (List Char)) :
    IsCut sep v ps ↔ ps = parts sep v := by
  constructor
  · rintro ⟨rfl, hne, hfirst, hothers, hstart⟩
    cases ps with
    | nil => exact absurd rfl hne
    | cons s rest =>
        cases s with
        | nil =>
            have hrest : rest = [] := hstart rfl
            rw [hrest]
            rfl
        | cons c s =>
            have hplain : ∀ t ∈ s :: rest, sep ∉ t :=
              List.forall_mem_cons.mpr ⟨hfirst (c :: s) rfl, hothers⟩
            rw [joined_cons, parts, segments_joined sep _ (List.cons_ne_nil s rest) hplain]
            rfl
  · rintro rfl
    exact isCut_parts sep v

section Concat

variable {sep} {v last : List Char} {ps : List (List Char)}

/-- A last part behind others has no separator. -/
theorem IsCut.not_mem_last (h : IsCut sep v (ps ++ [last])) (hps : ps ≠ []) : sep ∉ last := by
  refine h.others last ?_
  rw [List.tail_append_of_ne_nil hps]
  exact List.mem_append_right _ List.mem_cons_self

/-- The parts in front of the last one are the text in front of it, cut in the same places. -/
theorem IsCut.front (h : IsCut sep v (ps ++ [last])) (hps : ps ≠ []) :
    IsCut sep (joined sep ps) ps := by
  have hhead : (ps ++ [last]).head? = ps.head? := by
    cases ps with
    | nil => exact absurd rfl hps
    | cons s rest => rfl
  have htail : (ps ++ [last]).tail = ps.tail ++ [last] := List.tail_append_of_ne_nil hps
  refine ⟨rfl, hps, fun s hs => h.first s ?_, fun s hs => h.others s ?_, fun hstart => ?_⟩
  · rwa [hhead]
  · rw [htail]
    exact List.mem_append_left _ hs
  · -- An empty first part has no others, but here is a last one.
    have hnone := h.start (hhead.trans hstart)
    rw [htail] at hnone
    exact absurd hnone (List.append_ne_nil_of_right_ne_nil _ (List.cons_ne_nil last []))

/-- In front of a cut there is some text. -/
theorem IsCut.joined_ne_nil (h : IsCut sep v (ps ++ [last])) (hps : ps ≠ []) :
    joined sep ps ≠ [] := by
  cases ps with
  | nil => exact absurd rfl hps
  | cons s rest =>
      cases s with
      | nil =>
          have hnone := h.start rfl
          exact absurd hnone (List.append_ne_nil_of_right_ne_nil _ (List.cons_ne_nil last []))
      | cons c s =>
          rw [joined_cons]
          exact List.cons_ne_nil _ _

end Concat

end Parts

namespace VersionFormat

variable (f : VersionFormat)

/-- What stands behind the last separator, unless that is at the very start. -/
def lastChars (v : List Char) : List Char :=
  match splitLast f.separator v with
  | some (_ :: _, last) => last
  | _ => v

/-- The number is the last part of the short version. -/
theorem numberChars_eq (v : List Char) : f.numberChars v = f.lastChars (f.shortChars v) :=
  rfl

section Searches

variable {f} {v last : List Char} {ps : List (List Char)}

/-- The search for the last separator finds the last cut. -/
theorem splitLast_concat (h : IsCut f.separator v (ps ++ [last])) (hps : ps ≠ []) :
    splitLast f.separator v = some (joined f.separator ps, last) := by
  rw [← h.joined_eq, joined_concat f.separator ps last hps]
  exact splitLast_append f.separator _ last (h.not_mem_last hps)

/-- The short version is without the last part. -/
theorem shortChars_concat (h : IsCut f.separator v (ps ++ [last])) (hps : ps ≠ []) :
    f.shortChars v = joined f.separator ps := by
  rw [shortChars, splitLast_concat h hps]
  cases hfront : joined f.separator ps with
  | nil => exact absurd hfront (h.joined_ne_nil hps)
  | cons c front => rfl

/-- A version of one part is its own short version. -/
theorem shortChars_single (h : IsCut f.separator v [last]) : f.shortChars v = v := by
  have hv : last = v := (joined_singleton f.separator last).symm.trans h.joined_eq
  unfold shortChars
  cases hsplit : splitLast f.separator v with
  | none => rfl
  | some found =>
      rcases found with ⟨front, rest⟩
      rw [eq_nil_of_splitLast f.separator v front rest (hv ▸ h.first last rfl) hsplit]

/-- The last part stands behind the last cut, or is all there is. -/
theorem lastChars_concat (h : IsCut f.separator v (ps ++ [last])) : f.lastChars v = last := by
  unfold lastChars
  by_cases hps : ps = []
  · subst hps
    have hv : last = v := (joined_singleton f.separator last).symm.trans h.joined_eq
    cases hsplit : splitLast f.separator v with
    | none => exact hv.symm
    | some found =>
        rcases found with ⟨front, rest⟩
        rw [eq_nil_of_splitLast f.separator v front rest (hv ▸ h.first last rfl) hsplit]
        exact hv.symm
  · rw [splitLast_concat h hps]
    cases hfront : joined f.separator ps with
    | nil => exact absurd hfront (h.joined_ne_nil hps)
    | cons c front => rfl

/-- A cut has one part or more. -/
theorem one_or_more (h : IsCut f.separator v ps) :
    (∃ l, ps = [l]) ∨ ∃ qs l m, ps = qs ++ [l] ++ [m] := by
  rcases List.eq_nil_or_concat ps with hnil | ⟨rs, m, hrs⟩
  · exact absurd hnil h.ne_nil
  · rw [List.concat_eq_append] at hrs
    rcases List.eq_nil_or_concat rs with hnil | ⟨qs, l, hqs⟩
    · exact Or.inl ⟨m, by rw [hrs, hnil, List.nil_append]⟩
    · exact Or.inr ⟨qs, l, m, by rw [hrs, hqs, List.concat_eq_append]⟩

/-- The short version is without the last part, unless there is only one. -/
theorem shortChars_of_isCut (h : IsCut f.separator v ps) :
    f.shortChars v = if 2 ≤ ps.length then joined f.separator ps.dropLast else v := by
  rcases one_or_more h with ⟨l, rfl⟩ | ⟨qs, l, m, rfl⟩
  · exact shortChars_single h
  · have hlen : 2 ≤ (qs ++ [l] ++ [m]).length := by
      simp only [List.length_append, List.length_singleton]
      omega
    rw [if_pos hlen, List.dropLast_concat]
    exact shortChars_concat h (List.concat_ne_nil _ _)

/-- The number is the last part of the short version: the last but one, or the only one. -/
theorem numberChars_of_isCut (h : IsCut f.separator v ps) :
    ps[max 1 (ps.length - 1) - 1]? = some (f.numberChars v) := by
  rw [numberChars_eq]
  rcases one_or_more h with ⟨l, rfl⟩ | ⟨qs, l, m, rfl⟩
  · have hcut : IsCut f.separator v ([] ++ [l]) := h
    rw [shortChars_single h, lastChars_concat hcut]
    rfl
  · have hfront := h.front (List.concat_ne_nil _ _)
    have hindex : max 1 ((qs ++ [l] ++ [m]).length - 1) - 1 = qs.length := by
      simp only [List.length_append, List.length_singleton]
      omega
    have hlt : qs.length < (qs ++ [l]).length := by
      rw [List.length_append, List.length_singleton]
      exact Nat.lt_succ_self _
    rw [shortChars_concat h (List.concat_ne_nil _ _), lastChars_concat hfront, hindex,
      List.getElem?_append_left hlt]
    exact List.getElem?_concat_length

end Searches

/-- The parts of a version. -/
def partsOf (v : String) : List (List Char) :=
  parts f.separator v.toList

theorem isCut_partsOf (v : String) : IsCut f.separator v.toList (f.partsOf v) :=
  isCut_parts f.separator v.toList

/-- A version of several parts is its short version, a separator and a part. -/
theorem exists_of_two_le (v : String) (h : 2 ≤ (f.partsOf v).length) :
    ∃ last, f.separator ∉ last ∧ v.toList = f.shortChars v.toList ++ f.separator :: last := by
  have hcut := f.isCut_partsOf v
  rcases one_or_more hcut with ⟨l, hone⟩ | ⟨qs, l, last, hmore⟩
  · rw [hone, List.length_singleton] at h
    omega
  · rw [hmore] at hcut
    have hne : qs ++ [l] ≠ [] := List.concat_ne_nil l qs
    refine ⟨last, hcut.not_mem_last hne, ?_⟩
    rw [shortChars_concat hcut hne, ← joined_concat f.separator _ last hne]
    exact hcut.joined_eq.symm

/-- Merging with the short version gives the short version. -/
theorem merged_short (v : String) : f.merged v (f.short v) = f.short v := by
  have hbelow : f.Below (f.short v) v := by
    refine f.below_of_prefix _ _ ?_
    rw [segmentsOf, short, String.toList_ofList]
    exact segments_shortChars_prefix f v.toList
  rw [merged_comm]
  exact hbelow

/-- Versions that differ in the last part only merge to the short version of both. -/
theorem merged_of_short_eq (v w : String) (hne : v ≠ w) (hv : 2 ≤ (f.partsOf v).length)
    (hw : 2 ≤ (f.partsOf w).length) (hshort : f.short w = f.short v) :
    f.merged v w = f.short v := by
  rcases f.exists_of_two_le v hv with ⟨x, hx, hvx⟩
  rcases f.exists_of_two_le w hw with ⟨y, hy, hwy⟩
  have hfront : f.shortChars w.toList = f.shortChars v.toList := String.ofList_injective hshort
  have hxy : x ≠ y := by
    rintro rfl
    exact hne (String.toList_inj.mp (by rw [hvx, hwy, hfront]))
  have hsegments : ∀ last, f.separator ∉ last →
      segments f.separator (f.shortChars v.toList ++ f.separator :: last)
        = segments f.separator (f.shortChars v.toList) ++ [last] := fun last hlast => by
    rw [segments_append, segments_of_not_mem f.separator last hlast]
  rw [merged_eq, sharedFront, segmentsOf, segmentsOf, hvx, hwy, hfront, hsegments x hx,
    hsegments y hy, commonFront_concat_of_ne _ x y hxy, versionOfFront, joined_segments]
  rfl

end VersionFormat

/-! ### Offsets in bytes -/

/-- A character stands at an offset in the bytes of a text, and nowhere behind it. -/
def LastAt (c : Char) (v : String) (i : Nat) : Prop :=
  ∃ front last, v = front ++ String.singleton c ++ last ∧ c ∉ last.toList ∧ front.utf8ByteSize = i

/-- An offset is between two characters of a text, and the bytes up to it are those of another. -/
def IsFrontTo (v : String) (i : Nat) (s : String) : Prop :=
  String.Pos.Raw.IsValid v ⟨i⟩ ∧ v.toByteArray.extract 0 i = s.toByteArray

/-- An offset is between two characters of a text, and the bytes from it are those of another. -/
def IsBackFrom (v : String) (i : Nat) (s : String) : Prop :=
  String.Pos.Raw.IsValid v ⟨i⟩ ∧ v.toByteArray.extract i v.utf8ByteSize = s.toByteArray

theorem isFrontTo_append (front back : String) :
    IsFrontTo (front ++ back) front.utf8ByteSize front := by
  refine ⟨String.Pos.Raw.isValid_iff_exists_append.mpr ⟨front, back, rfl, rfl⟩, ?_⟩
  rw [String.toByteArray_append]
  exact ByteArray.extract_append_eq_left String.size_toByteArray.symm

theorem isBackFrom_append (front back : String) :
    IsBackFrom (front ++ back) front.utf8ByteSize back := by
  refine ⟨String.Pos.Raw.isValid_iff_exists_append.mpr ⟨front, back, rfl, rfl⟩, ?_⟩
  rw [String.toByteArray_append]
  refine ByteArray.extract_append_eq_right String.size_toByteArray.symm ?_
  rw [String.utf8ByteSize_append, String.size_toByteArray, String.size_toByteArray]

/-- A text that stands in front of an offset behind the start is not empty. -/
theorem toList_eq_cons (front : String) (hi : 0 < front.utf8ByteSize) :
    ∃ d rest, front.toList = d :: rest := by
  cases hfront : front.toList with
  | nil =>
      have hempty : front = "" := String.toList_inj.mp hfront
      rw [hempty] at hi
      exact absurd hi (Nat.lt_irrefl 0)
  | cons d rest => exact ⟨d, rest, rfl⟩

/-- The search for the last separator finds the offset of the last one. -/
theorem splitLast_of_lastAt (c : Char) (v : String) (i : Nat) (h : LastAt c v i) :
    ∃ front last, v = front ++ String.singleton c ++ last ∧ front.utf8ByteSize = i ∧
      splitLast c v.toList = some (front.toList, last.toList) := by
  rcases h with ⟨front, last, rfl, hlast, hi⟩
  refine ⟨front, last, rfl, hi, (splitLast_eq_some_iff c _ _ _).mpr ⟨?_, hlast⟩⟩
  rw [String.toList_append, String.toList_append, String.toList_singleton, List.append_assoc]
  rfl

/-- If it finds a separator that is not at the start there is an offset for it. -/
theorem lastAt_of_splitLast (c d : Char) (v : String) (front last : List Char)
    (h : splitLast c v.toList = some (d :: front, last)) : ∃ i, LastAt c v i ∧ i ≠ 0 := by
  rcases (splitLast_eq_some_iff c _ _ _).mp h with ⟨hv, hlast⟩
  refine ⟨_, ⟨String.ofList (d :: front), String.ofList last, ?_, ?_, rfl⟩, ?_⟩
  · refine String.toList_inj.mp ?_
    rw [String.toList_append, String.toList_append, String.toList_singleton, String.toList_ofList,
      String.toList_ofList, List.append_assoc, hv]
    rfl
  · rwa [String.toList_ofList]
  · rw [Ne, String.utf8ByteSize_eq_zero_iff]
    exact fun hnil => List.cons_ne_nil d front (String.ofList_injective hnil)

namespace VersionFormat

/-- What is taken from the bytes of a version. With its last separator behind the start, the short
    version is what stands up to that offset, and otherwise all of it; and the number is what stands
    behind the last separator of the short version, or all of that. -/
structure Slices (f : VersionFormat) (v : String) : Prop where
  short_cut : ∀ i, LastAt f.separator v i → 0 < i → IsFrontTo v i (f.short v)
  short_whole : (∀ i, LastAt f.separator v i → i = 0) → f.short v = v
  number_cut : ∀ i, LastAt f.separator (f.short v) i → 0 < i →
    IsBackFrom (f.short v) (i + f.separator.utf8Size) (f.number v)
  number_whole : (∀ i, LastAt f.separator (f.short v) i → i = 0) → f.number v = f.short v

theorem slices (f : VersionFormat) (v : String) : f.Slices v := by
  have hnumber : f.number v = String.ofList (f.lastChars (f.short v).toList) := by
    rw [number, numberChars_eq, short, String.toList_ofList]
  constructor
  case short_cut =>
    intro i hi hpos
    rcases splitLast_of_lastAt f.separator v i hi with ⟨front, last, hv, rfl, hsplit⟩
    rcases toList_eq_cons front hpos with ⟨d, rest, hfront⟩
    have hshort : f.short v = front := by
      rw [hfront] at hsplit
      simp only [short, shortChars, hsplit]
      rw [← hfront, String.ofList_toList]
    rw [hshort, hv, String.append_assoc]
    exact isFrontTo_append front _
  case short_whole =>
    intro hstart
    unfold short shortChars
    split
    · next d front last hsplit =>
        rcases lastAt_of_splitLast f.separator d v front last hsplit with ⟨i, hi, hne⟩
        exact absurd (hstart i hi) hne
    · exact String.ofList_toList
  case number_cut =>
    intro i hi hpos
    rcases splitLast_of_lastAt f.separator (f.short v) i hi with ⟨front, last, hv, rfl, hsplit⟩
    rcases toList_eq_cons front hpos with ⟨d, rest, hfront⟩
    have hlast : f.number v = last := by
      rw [hfront] at hsplit
      rw [hnumber]
      simp only [lastChars, hsplit]
      exact String.ofList_toList
    have hsize : front.utf8ByteSize + f.separator.utf8Size
        = (front ++ String.singleton f.separator).utf8ByteSize := by
      rw [String.utf8ByteSize_append, String.utf8ByteSize_singleton]
    rw [hlast, hv, hsize]
    exact isBackFrom_append _ last
  case number_whole =>
    intro hstart
    rw [hnumber]
    unfold lastChars
    split
    · next d front last hsplit =>
        rcases lastAt_of_splitLast f.separator d (f.short v) front last hsplit with ⟨i, hi, hne⟩
        exact absurd (hstart i hi) hne
    · exact String.ofList_toList

/-- The short version and the version number are parts of a version. It is cut at every separator
    but one at its start, in one way. The short version is without the last part, unless that is the
    only one, and the number is the last part of the short version. In the bytes of the version both
    begin and end between characters. Merging with the short version gives the short version, and
    versions that differ in their last part only merge to it. -/
theorem short_number_parts (f : VersionFormat) (v : String) :
    let ps := f.partsOf v
    (∀ qs, IsCut f.separator v.toList qs ↔ qs = ps) ∧
    f.short v = (if 2 ≤ ps.length then f.versionOfFront ps.dropLast else v) ∧
    ps[max 1 (ps.length - 1) - 1]? = some (f.number v).toList ∧
    f.Slices v ∧
    f.merged v (f.short v) = f.short v ∧
    ∀ w, v ≠ w → 2 ≤ ps.length → 2 ≤ (f.partsOf w).length → f.short w = f.short v →
      f.merged v w = f.short v := by
  intro ps
  have hcut : IsCut f.separator v.toList ps := f.isCut_partsOf v
  have hshort : f.short v = if 2 ≤ ps.length then f.versionOfFront ps.dropLast else v := by
    rw [short, shortChars_of_isCut hcut, versionOfFront]
    by_cases htwo : 2 ≤ ps.length
    · rw [if_pos htwo, if_pos htwo]
    · rw [if_neg htwo, if_neg htwo, String.ofList_toList]
  have hnumber : ps[max 1 (ps.length - 1) - 1]? = some (f.number v).toList := by
    rw [number, String.toList_ofList]
    exact numberChars_of_isCut hcut
  exact ⟨fun qs => isCut_iff f.separator v.toList qs, hshort, hnumber, f.slices v,
    f.merged_short v, fun w hne hv hw => f.merged_of_short_eq v w hne hv hw⟩

/-- Versions with separators of three bytes at both ends and beside each other, and one that is
    nothing but separators. -/
theorem short_number_parts_table :
    let f : VersionFormat := { separator := '版' }
    let v := "版5.2版版7版"
    let w := "版5.2版版7版8"
    f.partsOf v = [['版', '5', '.', '2'], [], ['7'], []] ∧
    (f.short v = "版5.2版版7" ∧ f.number v = "7") ∧
    (LastAt '版' v 13 ∧ IsFrontTo v 13 (f.short v)) ∧
    (v ≠ w ∧ 2 ≤ (f.partsOf v).length ∧ 2 ≤ (f.partsOf w).length ∧ f.short w = f.short v) ∧
    f.merged v w = f.short v ∧
    (f.partsOf "版版").length = 2 ∧ f.short "版版" = "版" ∧ f.number "版版" = "版" := by
  intro f v w
  have hlast : LastAt '版' v 13 :=
    ⟨"版5.2版版7", "", by decide +kernel, by decide +kernel, by decide +kernel⟩
  have hsame : v ≠ w ∧ 2 ≤ (f.partsOf v).length ∧ 2 ≤ (f.partsOf w).length ∧
      f.short w = f.short v := by decide +kernel
  rcases f.short_number_parts v with ⟨-, -, -, hslices, -, hmerged⟩
  refine ⟨by decide +kernel, by decide +kernel, ⟨hlast, ?_⟩, hsame, ?_, by decide +kernel⟩
  · exact hslices.short_cut 13 hlast (by decide)
  · exact hmerged w hsame.1 hsame.2.1 hsame.2.2.1 hsame.2.2.2

end VersionFormat

end RunReport
