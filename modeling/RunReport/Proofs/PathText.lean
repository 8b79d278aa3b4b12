import Mathlib.Data.List.Infix
import RunReport.Proofs.PercentText
import RunReport.Proofs.Segments
import RunReport.Url.Parser

/-!
# Paths That Are Resolved

A path that was read is read as itself, but for one spelling of a drive.

While a path is read, segments of dots are resolved, what needs it is written by its bytes, and
backslashes are slashes, so in the path that is written there is nothing of this left to do. `Clean`
is what a segment is then; `clean_pushSegments` says that all segments are clean, and
`pushSegments_of_clean` that clean segments are kept.

The path of a file is the exception. Its drive may be written with a bar, and is written with a
colon when it is the first segment. Empty segments at the front are dropped only after this, so a
drive behind them keeps its bar, and is the first segment when the path is read again.
`withDriveColon` is the path that is read then.

## Main definitions

* `Url.Clean`: A segment with nothing left to resolve.
* `Url.Resolved`: A path of clean segments.
* `Url.driveText`, `Url.withDriveColon`: A drive with a colon, and a path that starts with it.

## Theorems

* `clean_pushSegment`, `clean_pushSegments`: What is read is clean.
* `pushSegments_of_clean`: Clean segments are kept.
* `resolved_pathText`, `inside_of_resolved`: What a path is made of.
* `pathText_of_resolved`, `pathText_file`: A path that was read is read as itself.
* `startsWithDrive_joined`, `resolved_withDriveColon`, `startsWithDrive_withDriveColon`,
  `withDriveColon_withDriveColon`: The drive of a path, and of the path with a colon.
-/

namespace RunReport

namespace Url

open Scheme (Kind)

/-- A segment of a path with nothing left to resolve in it. -/
structure Clean (kind : Kind) (s : List Char) : Prop where
  plain : Percent.Plain Percent.inPath s
  slashes : ∀ c ∈ s, isSlash kind c = false
  dot : isDot s = false
  doubleDot : isDoubleDot s = false

/-! ### Dots -/

/-- Spellings of dots have no other percent signs than those of dots. -/
theorem marksDots_of_spelling (t : List Char)
    (h : t ∈ [['.'], ['%', '2', 'e'], ['.', '.'], ['.', '%', '2', 'e'], ['%', '2', 'e', '.'],
      ['%', '2', 'e', '%', '2', 'e']]) : Percent.MarksDots t := by
  have hall : ∀ t ∈ [['.'], ['%', '2', 'e'], ['.', '.'], ['.', '%', '2', 'e'],
      ['%', '2', 'e', '.'], ['%', '2', 'e', '%', '2', 'e']],
      ∀ s ∈ t.tails, s.head? = some '%' → ['2', 'e'] <+: s.tail := by
    decide +kernel
  exact fun rest hrest => hall t h _ ((List.mem_tails _ _).mpr hrest) rfl

/-- A segment that is written as dots is dots. -/
theorem encode_of_dots (s : List Char)
    (h : isDot (Percent.encode Percent.inPath s) ∨ isDoubleDot (Percent.encode Percent.inPath s)) :
    Percent.encode Percent.inPath s = s := by
  refine Percent.encode_eq_of_dots s (marksDots_of_spelling _ ?_)
  rcases h with h | h
  · exact List.mem_append_left _ (of_decide_eq_true h)
  · exact List.mem_append_right [['.'], ['%', '2', 'e']] (of_decide_eq_true h)

/-! ### What is read is clean -/

/-- A written segment is clean, if it is no dots and has no slashes. -/
theorem clean_encode (kind : Kind) (s : List Char) (hslashes : ∀ c ∈ s, isSlash kind c = false)
    (hdot : isDot s = false) (hdouble : isDoubleDot s = false) :
    Clean kind (Percent.encode Percent.inPath s) := by
  have hsigns : ∀ c ∈ Percent.signs, isSlash kind c = false :=
    List.all_iff_forall_prop.mp (by cases kind <;> decide +kernel)
  refine ⟨Percent.plain_encode _ s (by decide +kernel), fun c hc => ?_, ?_, ?_⟩
  · rcases Percent.mem_signs_or_of_mem_encode _ s c hc with hsign | ⟨hmem, -⟩
    · exact hsigns c hsign
    · exact hslashes c hmem
  · by_contra hwritten
    rw [Bool.not_eq_false] at hwritten
    rw [encode_of_dots s (Or.inl hwritten), hdot] at hwritten
    cases hwritten
  · by_contra hwritten
    rw [Bool.not_eq_false] at hwritten
    rw [encode_of_dots s (Or.inr hwritten), hdouble] at hwritten
    cases hwritten

theorem clean_nil (kind : Kind) : Clean kind [] :=
  ⟨List.forall_mem_nil _, List.forall_mem_nil _, rfl, rfl⟩

theorem code_of_isAlpha (c : Char) (h : c.isAlpha) : c.toNat < 0x80 := by
  have hbelow : ∀ last : Char, last.toNat < 0x80 → c.val ≤ last.val → c.toNat < 0x80 :=
    fun last hlast hle => Nat.lt_of_le_of_lt (UInt32.le_iff_toNat_le.mp hle) hlast
  rcases Bool.or_eq_true_iff.mp h with hupper | hlower
  · have hbounds : 'A'.val ≤ c.val ∧ c.val ≤ 'Z'.val := of_decide_eq_true hupper
    exact hbelow 'Z' (by decide) hbounds.2
  · have hbounds : ('a'.val ≤ c.val && c.val ≤ 'z'.val) = true := hlower
    exact hbelow 'z' (by decide) (of_decide_eq_true (Bool.and_eq_true_iff.mp hbounds).2)

theorem isDrive_iff (s : List Char) :
    isDrive s ↔ ∃ c d, s = [c, d] ∧ c.isAlpha ∧ (d = ':' ∨ d = '|') := by
  constructor
  · intro h
    unfold isDrive at h
    split at h
    · next c d =>
        rw [Bool.and_eq_true, Bool.or_eq_true, decide_eq_true_eq, decide_eq_true_eq] at h
        exact ⟨c, d, rfl, h⟩
    · cases h
  · rintro ⟨c, d, rfl, hc, hd⟩
    rw [isDrive, Bool.and_eq_true, Bool.or_eq_true, decide_eq_true_eq, decide_eq_true_eq]
    exact ⟨hc, hd⟩

/-- A drive with a colon is clean. -/
theorem clean_drive (kind : Kind) (c : Char) (h : c.isAlpha) : Clean kind [c, ':'] := by
  -- The letters are those of ASCII, so all drives can be tried.
  have hall : ∀ kind, ∀ c, c.toNat < 0x80 → c.isAlpha →
      Percent.Plain Percent.inPath [c, ':'] ∧ isSlash kind c = false ∧
        isSlash kind ':' = false ∧ isDot [c, ':'] = false ∧ isDoubleDot [c, ':'] = false := by
    intro kind
    refine FormEncoding.forall_ascii _ ?_
    cases kind <;> decide +kernel
  rcases hall kind c (code_of_isAlpha c h) h with ⟨hplain, hletter, hcolon, hdot, hdouble⟩
  refine ⟨hplain, ?_, hdot, hdouble⟩
  rw [List.forall_mem_cons, List.forall_mem_singleton]
  exact ⟨hletter, hcolon⟩

theorem mem_of_mem_shortened (kind : Kind) (path : List (List Char)) :
    ∀ t ∈ shortened kind path, t ∈ path := by
  unfold shortened
  split
  · split
    · exact fun t ht => ht
    · exact fun t ht => absurd ht List.not_mem_nil
  · exact fun t ht => List.mem_of_mem_dropLast ht

/-- The segments of a path with one more segment: nothing but the new one comes to them, and empty
    ones. -/
theorem mem_of_mem_pushSegment (kind : Kind) (path : List (List Char)) (s : List Char)
    (isLast : Bool) : ∀ t ∈ pushSegment kind path s isLast, t ∈ path ∨ t = [] ∨
      (∃ c, c.isAlpha ∧ t = [c, ':']) ∨
      (isDot s = false ∧ isDoubleDot s = false ∧ t = Percent.encode Percent.inPath s) := by
  have hempty : ∀ ts : List (List Char), (∀ t ∈ ts, t ∈ path) →
      ∀ t ∈ if isLast then ts ++ [[]] else ts, t ∈ path ∨ t = [] := by
    intro ts hts
    split
    · rw [List.forall_mem_append, List.forall_mem_singleton]
      exact ⟨fun t ht => Or.inl (hts t ht), Or.inr rfl⟩
    · exact fun t ht => Or.inl (hts t ht)
  intro t ht
  rw [pushSegment.eq_def] at ht
  -- The reader looks for two dots, for one, for nothing and for a drive, in this order.
  by_cases hdouble : isDoubleDot s
  · rw [if_pos hdouble] at ht
    rcases hempty _ (mem_of_mem_shortened kind path) t ht with h | h
    · exact Or.inl h
    · exact Or.inr (Or.inl h)
  rw [if_neg hdouble] at ht
  by_cases hdot : isDot s
  · rw [if_pos hdot] at ht
    rcases hempty path (fun t ht => ht) t ht with h | h
    · exact Or.inl h
    · exact Or.inr (Or.inl h)
  rw [if_neg hdot] at ht
  cases s with
  | nil =>
      rcases List.mem_append.mp ht with h | h
      · exact Or.inl h
      · exact Or.inr (Or.inl (List.mem_singleton.mp h))
  | cons c rest =>
      simp only at ht
      split at ht
      · next hdrive =>
          rcases (isDrive_iff _).mp (Bool.and_eq_true_iff.mp hdrive).2 with ⟨_, _, hcd, hletter, -⟩
          rw [← (List.cons.inj hcd).1] at hletter
          exact Or.inr (Or.inr (Or.inl ⟨c, hletter, List.mem_singleton.mp ht⟩))
      · rcases List.mem_append.mp ht with h | h
        · exact Or.inl h
        · exact Or.inr (Or.inr (Or.inr ⟨Bool.not_eq_true _ ▸ hdot, Bool.not_eq_true _ ▸ hdouble,
            List.mem_singleton.mp h⟩))

/-- One more segment leaves the path clean. -/
theorem clean_pushSegment (kind : Kind) (path : List (List Char)) (s : List Char) (isLast : Bool)
    (h : ∀ t ∈ path, Clean kind t) (hslashes : ∀ c ∈ s, isSlash kind c = false) :
    ∀ t ∈ pushSegment kind path s isLast, Clean kind t := by
  intro t ht
  rcases mem_of_mem_pushSegment kind path s isLast t ht with hold | rfl | ⟨c, hc, rfl⟩ | hnew
  · exact h t hold
  · exact clean_nil kind
  · exact clean_drive kind c hc
  · rcases hnew with ⟨hdot, hdouble, rfl⟩
    exact clean_encode kind s hslashes hdot hdouble

/-- Segments without slashes leave the path clean. -/
theorem clean_pushSegments (kind : Kind) (path segs : List (List Char))
    (h : ∀ t ∈ path, Clean kind t) (hslashes : ∀ s ∈ segs, ∀ c ∈ s, isSlash kind c = false) :
    ∀ t ∈ pushSegments kind path segs, Clean kind t := by
  induction segs generalizing path with
  | nil => exact h
  | cons s rest ih =>
      rw [List.forall_mem_cons] at hslashes
      cases rest with
      | nil => exact clean_pushSegment kind path s true h hslashes.1
      | cons t rest => exact ih _ (clean_pushSegment kind path s false h hslashes.1) hslashes.2

/-- The last segment always leaves one behind. -/
theorem pushSegments_ne_nil (kind : Kind) (path segs : List (List Char)) (hne : segs ≠ []) :
    pushSegments kind path segs ≠ [] := by
  induction segs generalizing path with
  | nil => exact absurd rfl hne
  | cons s rest ih =>
      cases rest with
      | nil =>
          -- In every branch the last segment adds itself, or an empty one in its place.
          rw [pushSegments, pushSegment.eq_def]
          simp only [if_true]
          repeat' split
          all_goals simp
      | cons t rest => exact ih _ (List.cons_ne_nil t rest)

/-! ### What is clean is kept -/

theorem pushSegment_of_clean (kind : Kind) (path : List (List Char)) (s : List Char)
    (isLast : Bool) (h : Clean kind s)
    (hdrive : (kind = .file && path.isEmpty && isDrive s) = false) :
    pushSegment kind path s isLast = path ++ [s] := by
  rw [pushSegment.eq_def, h.dot, h.doubleDot]
  cases s with
  | nil => rfl
  | cons c rest =>
      simp only [Bool.false_eq_true, if_false, hdrive,
        Percent.encode_of_plain _ _ h.plain]

/-- Clean segments are kept, if they do not begin with a drive. -/
theorem pushSegments_of_clean (kind : Kind) (path segs : List (List Char))
    (h : ∀ s ∈ segs, Clean kind s)
    (hdrive : kind = .file → path = [] → ∀ s ∈ segs.head?, isDrive s = false) :
    pushSegments kind path segs = path ++ segs := by
  induction segs generalizing path with
  | nil => exact (List.append_nil path).symm
  | cons s rest ih =>
      rw [List.forall_mem_cons] at h
      have hfirst : (kind = .file && path.isEmpty && isDrive s) = false := by
        rw [← Bool.not_eq_true, Bool.and_eq_true, Bool.and_eq_true, decide_eq_true_eq,
          List.isEmpty_iff]
        rintro ⟨⟨hkind, hpath⟩, hs⟩
        rw [hdrive hkind hpath s rfl] at hs
        cases hs
      have hpush := fun isLast => pushSegment_of_clean kind path s isLast h.1 hfirst
      cases rest with
      | nil => exact hpush true
      | cons t rest =>
          -- From here on the path is not empty, and a drive is a segment like any other.
          have hrest := ih (path ++ [s]) h.2 fun _ hpath => absurd hpath (by simp)
          rw [List.append_assoc, ← hpush false] at hrest
          exact hrest

/-! ### Paths -/

/-- A path of clean segments. The path of a file does not begin with an empty one. -/
structure Resolved (kind : Kind) (path : List Char) (segs : List (List Char)) : Prop where
  text : path = '/' :: joined '/' segs
  clean : ∀ s ∈ segs, Clean kind s
  ne_nil : kind ≠ .file → segs ≠ []
  first : kind = .file → ∀ s ∈ segs.head?, s ≠ []

theorem not_slash_of_clean (kind : Kind) (s : List Char) (h : Clean kind s) : '/' ∉ s := by
  intro hmem
  have hslash : isSlash kind '/' = true := rfl
  rw [h.slashes '/' hmem] at hslash
  cases hslash

/-- A text between slashes is cut at every slash. -/
theorem clean_slashed (kind : Kind) (cs : List Char) :
    ∀ s ∈ slashed kind cs, ∀ c ∈ s, isSlash kind c = false := by
  intro s hs c hc
  have hne : c ≠ '/' := fun heq => not_mem_of_mem_segments '/' _ s hs (heq ▸ hc)
  rcases List.mem_map.mp (mem_of_mem_segments '/' _ s hs c hc) with ⟨d, -, hd⟩
  split at hd
  · exact absurd hd.symm hne
  · next hslash => rwa [hd, Bool.not_eq_true] at hslash

/-- Clean segments are cut again from the text that joins them. -/
theorem slashed_joined (kind : Kind) (segs : List (List Char)) (hne : segs ≠ [])
    (h : ∀ s ∈ segs, Clean kind s) : slashed kind (joined '/' segs) = segs := by
  -- Clean segments have no backslash that would become a slash.
  have hself : ∀ c ∈ joined '/' segs, (if isSlash kind c then '/' else c) = c := by
    refine forall_mem_joined '/' _ segs (if_pos rfl) fun s hs c hc => ?_
    rw [(h s hs).slashes c hc]
    rfl
  rw [slashed, List.map_congr_left hself, List.map_id']
  exact segments_joined '/' segs hne fun s hs => not_slash_of_clean kind s (h s hs)

/-- What is read as a path is resolved. -/
theorem resolved_pathText (kind : Kind) (cs : List Char) :
    ∃ segs, Resolved kind (pathText kind cs) segs := by
  have hclean := clean_pushSegments kind [] (slashed kind cs)
    (fun t ht => absurd ht List.not_mem_nil) (clean_slashed kind cs)
  have hne := pushSegments_ne_nil kind [] (slashed kind cs) (segments_ne_nil '/' _)
  rw [pathText]
  -- Only the path of a file then loses the empty segments at its front.
  generalize pushSegments kind [] (slashed kind cs) = segs at hclean hne ⊢
  by_cases hkind : kind = .file
  · refine ⟨segs.dropWhile List.isEmpty, ?_, ?_, fun h => absurd hkind h, fun _ s hs hnil => ?_⟩
    · simp only [hkind, if_true]
    · exact fun s hs => hclean s ((List.dropWhile_suffix _).mem hs)
    · have hfirst := List.head?_dropWhile_not List.isEmpty segs
      rw [hs, hnil] at hfirst
      cases hfirst
  · refine ⟨segs, ?_, hclean, fun _ => hne, fun h => absurd h hkind⟩
    simp only [hkind, if_false]

/-- The characters of a resolved path mean nothing elsewhere in a URL. -/
theorem inside_of_resolved (kind : Kind) (path : List Char) (segs : List (List Char))
    (h : Resolved kind path segs) : ∀ c ∈ path, 0x20 < c.toNat ∧ c ≠ '?' ∧ c ≠ '#' := by
  rw [h.text, List.forall_mem_cons]
  refine ⟨by decide, forall_mem_joined '/' _ segs (by decide) fun s hs c hc => ?_⟩
  have hplain := (h.clean s hs).plain
  refine ⟨Percent.code_of_plain _ c rfl (hplain c hc), ?_, ?_⟩
  · exact fun heq => Percent.not_mem_of_plain _ s '?' rfl hplain (heq ▸ hc)
  · exact fun heq => Percent.not_mem_of_plain _ s '#' rfl hplain (heq ▸ hc)

/-- Only for other schemes a path may be missing. -/
theorem rootedPath_spec (kind : Kind) (cs : List Char) :
    (rootedPath kind cs = [] ∧ kind = .other) ∨
      ∃ segs, Resolved kind (rootedPath kind cs) segs := by
  unfold rootedPath
  split
  · split
    · next hkind => exact Or.inl ⟨rfl, hkind⟩
    · exact Or.inr (resolved_pathText kind [])
  · split
    · exact Or.inr (resolved_pathText kind _)
    · exact Or.inr (resolved_pathText kind _)

/-- No character of a resolved path is a blank. -/
theorem last_of_resolved (kind : Kind) (path : List Char) (segs : List (List Char))
    (h : Resolved kind path segs) : ∀ c ∈ path.getLast?, 0x20 < c.toNat :=
  fun c hc => (inside_of_resolved kind path segs h c (List.mem_of_getLast? hc)).1

/-- The path of a URL without an authority ends in a blank only if its text does. -/
theorem last_barePath (cs : List Char) (h : ∀ c ∈ cs.getLast?, 0x20 < c.toNat) :
    ∀ c ∈ (barePath cs).getLast?, 0x20 < c.toNat := by
  unfold barePath
  split
  · next rest =>
      rcases resolved_pathText .other rest with ⟨segs, hsegs⟩
      exact last_of_resolved _ _ segs hsegs
  · have hsigns : ∀ c ∈ Percent.signs, 0x20 < c.toNat :=
      List.all_iff_forall_prop.mp (by decide +kernel)
    intro c hc
    rcases Percent.mem_signs_or_of_getLast? _ cs c hc with hsign | hlast
    · exact hsigns c hsign
    · exact h c hlast

/-- A resolved path is read as itself. -/
theorem pathText_of_resolved (kind : Kind) (cs : List Char) (segs : List (List Char))
    (hkind : kind ≠ .file) (h : Resolved kind ('/' :: cs) segs) : pathText kind cs = '/' :: cs := by
  have hcs : cs = joined '/' segs := (List.cons.inj h.text).2
  rw [pathText, hcs, slashed_joined kind segs (h.ne_nil hkind) h.clean,
    pushSegments_of_clean kind [] segs h.clean fun hfile => absurd hfile hkind]
  simp only [hkind, if_false, List.nil_append]

theorem rootedPath_of_resolved (kind : Kind) (path : List Char) (segs : List (List Char))
    (hkind : kind ≠ .file) (h : Resolved kind path segs) : rootedPath kind path = path := by
  cases path with
  | nil => cases h.text
  | cons c cs =>
      rcases (List.cons.inj h.text).1
      exact pathText_of_resolved kind cs segs hkind h

/-- A path of another scheme is read in the same way if it is put behind a dot. -/
theorem pathText_dot (cs : List Char) :
    pathText .other ('.' :: '/' :: cs) = pathText .other cs := by
  have hslashed : slashed .other ('.' :: '/' :: cs) = ['.'] :: slashed .other cs := rfl
  rw [pathText, pathText, hslashed]
  cases hsegs : slashed .other cs with
  | nil => exact absurd hsegs (segments_ne_nil '/' _)
  | cons s rest => rfl

/-! ### Drives -/

/-- The first segment of the path of a file: a drive with a colon. -/
def driveText (s : List Char) : List Char :=
  match s with
  | [c, d] => if isDrive [c, d] then [c, ':'] else [c, d]
  | s => s

/-- A path whose drive, if it starts with one, is written with a colon. -/
def withDriveColon (path : List Char) : List Char :=
  match path with
  | '/' :: cs => '/' :: joined '/' ((segments '/' cs).modifyHead driveText)
  | cs => cs

theorem driveText_of_not_drive (s : List Char) (h : isDrive s = false) : driveText s = s := by
  unfold driveText
  split
  · rw [h]
    rfl
  · rfl

theorem driveText_of_drive (c d : Char) (h : isDrive [c, d]) : driveText [c, d] = [c, ':'] :=
  if_pos h

/-- Writing a drive with a colon leaves it a drive, and anything else what it is. -/
theorem isDrive_driveText (s : List Char) : isDrive (driveText s) = isDrive s := by
  by_cases h : isDrive s
  · rcases (isDrive_iff s).mp h with ⟨c, d, rfl, hletter, -⟩
    rw [driveText_of_drive c d h, h, isDrive_iff]
    exact ⟨c, ':', rfl, hletter, Or.inl rfl⟩
  · rw [driveText_of_not_drive s (Bool.not_eq_true _ ▸ h)]

theorem driveText_ne_nil (s : List Char) (h : s ≠ []) : driveText s ≠ [] := by
  by_cases hdrive : isDrive s
  · rcases (isDrive_iff s).mp hdrive with ⟨c, d, rfl, -, -⟩
    rw [driveText_of_drive c d hdrive]
    exact List.cons_ne_nil _ _
  · rwa [driveText_of_not_drive s (Bool.not_eq_true _ ▸ hdrive)]

theorem clean_driveText (kind : Kind) (s : List Char) (h : Clean kind s) :
    Clean kind (driveText s) := by
  by_cases hdrive : isDrive s
  · rcases (isDrive_iff s).mp hdrive with ⟨c, d, rfl, hletter, -⟩
    rw [driveText_of_drive c d hdrive]
    exact clean_drive kind c hletter
  · rwa [driveText_of_not_drive s (Bool.not_eq_true _ ▸ hdrive)]

/-- The segments of the path of a file that was read are kept, but for the bar of a drive. -/
theorem pushSegments_file (s : List Char) (rest : List (List Char))
    (h : ∀ t ∈ s :: rest, Clean .file t) :
    pushSegments .file [] (s :: rest) = driveText s :: rest := by
  by_cases hdrive : isDrive s
  · rcases (isDrive_iff s).mp hdrive with ⟨c, d, rfl, -, -⟩
    -- A drive that comes first gets its colon, whether or not more segments follow.
    have hfirst : ∀ isLast, pushSegment .file [] [c, d] isLast = [[c, ':']] := by
      intro isLast
      rw [List.forall_mem_cons] at h
      rw [pushSegment.eq_def, h.1.dot, h.1.doubleDot]
      simp only [Bool.false_eq_true, if_false, decide_true, List.isEmpty_nil, hdrive, Bool.and_true,
        if_true]
    rw [driveText_of_drive c d hdrive]
    cases rest with
    | nil => exact hfirst true
    | cons t rest =>
        rw [pushSegments, hfirst, pushSegments_of_clean .file _ _ (List.forall_mem_cons.mp h).2]
        · rfl
        · exact fun _ hpath => absurd hpath (by simp)
        · exact List.cons_ne_nil t rest
  · rw [driveText_of_not_drive s (Bool.not_eq_true _ ▸ hdrive),
      pushSegments_of_clean .file [] (s :: rest) h]
    · rfl
    · intro _ _ t ht
      rw [← Option.some.inj ht]
      exact Bool.not_eq_true _ ▸ hdrive

/-- The path of a file that was read is read as itself, but for the bar of a drive. -/
theorem pathText_file (cs : List Char) (segs : List (List Char))
    (h : Resolved .file ('/' :: cs) segs) : pathText .file cs = withDriveColon ('/' :: cs) := by
  have hcs : cs = joined '/' segs := (List.cons.inj h.text).2
  cases segs with
  | nil =>
      rw [hcs]
      rfl
  | cons s rest =>
      have hne := List.cons_ne_nil s rest
      have hsegments := segments_joined '/' (s :: rest) hne fun t ht =>
        not_slash_of_clean .file t (h.clean t ht)
      have hfirst : (driveText s).isEmpty = false :=
        List.isEmpty_eq_false_iff.mpr (driveText_ne_nil s (h.first rfl s rfl))
      rw [pathText, withDriveColon, hcs, hsegments, slashed_joined .file _ hne h.clean,
        pushSegments_file s rest h.clean, if_pos rfl,
        List.dropWhile_cons_of_neg (by rw [hfirst]; decide)]
      rfl

theorem rootedPath_file (path : List Char) (segs : List (List Char))
    (h : Resolved .file path segs) : rootedPath .file path = withDriveColon path := by
  cases path with
  | nil => cases h.text
  | cons c cs =>
      rcases (List.cons.inj h.text).1
      exact pathText_file cs segs h

/-- A resolved path starts with a drive if its first segment is one. -/
theorem startsWithDrive_joined (segs : List (List Char)) (h : ∀ s ∈ segs, '/' ∉ s) :
    startsWithDrive ('/' :: joined '/' segs) = segs.head?.any isDrive := by
  cases segs with
  | nil => rfl
  | cons s rest =>
      have hmore : ∃ more, joined '/' (s :: rest) = s ++ more ∧
          (more = [] ∨ ∃ after, more = '/' :: after) := by
        cases rest with
        | nil => exact ⟨[], by rw [joined_singleton, List.append_nil], Or.inl rfl⟩
        | cons t rest => exact ⟨_, joined_cons_cons '/' s t rest, Or.inr ⟨_, rfl⟩⟩
      rcases hmore with ⟨more, hjoined, hend⟩
      have hs := h s List.mem_cons_self
      rw [hjoined, List.head?_cons, Option.any_some]
      -- Two characters are looked at, and whether the segment ends behind them.
      rcases s with _ | ⟨c, _ | ⟨d, _ | ⟨e, s⟩⟩⟩
      · rcases hend with rfl | ⟨after, rfl⟩
        · rfl
        · cases after <;> rfl
      · rcases hend with rfl | ⟨after, rfl⟩
        · rfl
        · simp [startsWithDrive, isDrive]
      · rcases hend with rfl | ⟨after, rfl⟩ <;> simp [startsWithDrive]
      · have he : e ≠ '/' := fun heq => hs (by simp [heq])
        simp [startsWithDrive, isDrive, he]

theorem startsWithDrive_of_resolved (path : List Char) (segs : List (List Char))
    (h : Resolved .file path segs) : startsWithDrive path = segs.head?.any isDrive := by
  rw [h.text]
  exact startsWithDrive_joined segs fun s hs => not_slash_of_clean .file s (h.clean s hs)

/-- The path with a colon is resolved as well. -/
theorem resolved_withDriveColon (path : List Char) (segs : List (List Char))
    (h : Resolved .file path segs) :
    Resolved .file (withDriveColon path) (segs.modifyHead driveText) := by
  cases segs with
  | nil =>
      rw [h.text]
      exact ⟨rfl, fun s hs => absurd hs List.not_mem_nil, fun hkind => absurd rfl hkind,
        fun _ s hs => absurd hs (by simp)⟩
  | cons s rest =>
      have hclean := List.forall_mem_cons.mp h.clean
      have hsegments := segments_joined '/' (s :: rest) (List.cons_ne_nil s rest) fun t ht =>
        not_slash_of_clean .file t (h.clean t ht)
      refine ⟨?_, List.forall_mem_cons.mpr ⟨clean_driveText .file s hclean.1, hclean.2⟩,
        fun hkind => absurd rfl hkind, fun _ t ht => ?_⟩
      · rw [h.text, withDriveColon, hsegments]
      · rw [← Option.some.inj ht]
        exact driveText_ne_nil s (h.first rfl s rfl)

/-- The path that is read the second time starts with a drive if the first one does. -/
theorem startsWithDrive_withDriveColon (path : List Char) (segs : List (List Char))
    (h : Resolved .file path segs) :
    startsWithDrive (withDriveColon path) = startsWithDrive path := by
  rw [startsWithDrive_of_resolved path segs h,
    startsWithDrive_of_resolved _ _ (resolved_withDriveColon path segs h)]
  cases segs with
  | nil => rfl
  | cons s rest => exact isDrive_driveText s

/-- A path that has a colon already is not changed any more. -/
theorem withDriveColon_withDriveColon (path : List Char) (segs : List (List Char))
    (h : Resolved .file path segs) :
    withDriveColon (withDriveColon path) = withDriveColon path := by
  have hcolon := resolved_withDriveColon path segs h
  cases segs with
  | nil =>
      rw [h.text]
      rfl
  | cons s rest =>
      -- Only the first segment can be a drive, and a drive with a colon stays one.
      have hsame : driveText (driveText s) = driveText s := by
        by_cases hdrive : isDrive s
        · rcases (isDrive_iff s).mp hdrive with ⟨c, d, rfl, -, -⟩
          rw [driveText_of_drive c d hdrive]
          exact ite_self _
        · rw [driveText_of_not_drive s (Bool.not_eq_true _ ▸ hdrive)]
          exact driveText_of_not_drive s (Bool.not_eq_true _ ▸ hdrive)
      have hsegments := segments_joined '/' (driveText s :: rest) (List.cons_ne_nil _ rest)
        fun t ht => not_slash_of_clean .file t (hcolon.clean t ht)
      rw [hcolon.text, withDriveColon, List.modifyHead_cons, hsegments, List.modifyHead_cons, hsame]

end Url

end RunReport
