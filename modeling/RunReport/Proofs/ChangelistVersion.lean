import RunReport.Proofs.Segments
import RunReport.Release

/-!
# The Version of a Changelist

What the version that a changelist is known by says about its builds.

`Release.versionOf` goes through the builds of a changelist and merges the version so far with that
of the next build. It starts with the short version of the first one. The builds that follow are
taken with their full versions, so the first build decides how long the version can get, and it is
not clear from the walk whether the order of the others matters.

It does not. The version is the text of the longest front that the short version of the first build
and the versions of the others share (`versionOf_eq`), and a longest front depends only on which
lists there are. The front also leads the first build's full version, because that begins with its
short version. Where the builds share nothing the front is empty, and so is the text; it is the only
front that the text does not give back when it is cut.

## Main definitions

* `VersionFormat.segmentsOf`: The segments of a version.
* `Release.buildsOf`: The builds of a changelist.
* `VersionFormat.Represents`: A version with the segments that some builds share.
* `VersionFormat.frontOf`, `VersionFormat.versionOfFront`: These segments, and the text of them.

## Theorems

* `toList_foldl_merged`: Merging texts is merging their characters.
* `versionOf_eq`: The version of a changelist is the text of a front.
* `represents_front`: The text of that front represents the builds.
* `versionOf_congr`: The first build and the versions of the others decide the version.
* `versionOf_represents`: The version of a changelist represents its builds.
* `versionOf_represents_table`: A changelist with separators at both ends of its versions.
-/

namespace RunReport

/-- The segments of a version. -/
def VersionFormat.segmentsOf (f : VersionFormat) (v : String) : List (List Char) :=
  segments f.separator v.toList

/-- The builds of a changelist, in the order of the release. -/
def Release.buildsOf (r : Release) (changelist : String) : List Build :=
  r.builds.filter (·.changelist = some changelist)

/-- A version represents a first build and some others if it has the segments that the short version
    of the first build and the versions of the others share at the front. No segments make the empty
    text. -/
structure VersionFormat.Represents (f : VersionFormat) (first : Build) (others : List Build)
    (front : List (List Char)) (v : String) : Prop where
  longest : LongestFront front
    (f.segmentsOf (f.short first.version) :: others.map fun b => f.segmentsOf b.version)
  segments_eq : front ≠ [] → f.segmentsOf v = front
  eq_empty : front = [] → v = ""
  leads : ∀ b ∈ first :: others, front <+: f.segmentsOf b.version

namespace VersionFormat

variable (f : VersionFormat)

/-- The segments that are left after going through some builds. -/
def frontOf (first : Build) (others : List Build) : List (List Char) :=
  (others.map fun b => f.segmentsOf b.version).foldl commonFront
    (f.segmentsOf (f.short first.version))

/-- The version that is written for them. -/
def versionOfFront (front : List (List Char)) : String :=
  String.ofList (joined f.separator front)

/-- Merging texts is merging their characters. -/
theorem toList_foldl_merged (v : String) (bs : List Build) :
    (bs.foldl (fun v b => f.merged v b.version) v).toList
      = (bs.map fun b => b.version.toList).foldl f.mergedChars v.toList := by
  induction bs generalizing v with
  | nil => rfl
  | cons b bs ih =>
      rw [List.foldl_cons, ih, List.map_cons, List.foldl_cons, merged, String.toList_ofList]

/-- The text of the front represents the builds. -/
theorem represents_front (first : Build) (others : List Build) :
    f.Represents first others (f.frontOf first others)
      (f.versionOfFront (f.frontOf first others)) := by
  have hlongest := longestFront_foldl (f.segmentsOf (f.short first.version))
    (others.map fun b => f.segmentsOf b.version)
  have hshort : f.frontOf first others <+: f.segmentsOf (f.short first.version) :=
    hlongest.leads _ List.mem_cons_self
  constructor
  case longest => exact hlongest
  case segments_eq =>
    intro hne
    rw [segmentsOf, versionOfFront, String.toList_ofList]
    refine segments_joined f.separator _ hne fun s hs => ?_
    exact not_mem_of_mem_segments f.separator _ s (hshort.mem hs)
  case eq_empty =>
    intro hnone
    rw [versionOfFront, hnone]
    rfl
  case leads =>
    rw [List.forall_mem_cons]
    constructor
    · -- The first build is cut short in the fold, and its own version goes on from there.
      have hfull := segments_shortChars_prefix f first.version.toList
      rw [segmentsOf, short, String.toList_ofList] at hshort
      exact hshort.trans hfull
    · exact fun b hb => hlongest.leads _ (List.mem_cons_of_mem _ (List.mem_map_of_mem hb))

end VersionFormat

namespace Release

/-- The version of a changelist is the text of the front of its builds. -/
theorem versionOf_eq (r : Release) (changelist : String) (f : VersionFormat) :
    r.versionOf changelist f =
      match r.buildsOf changelist with
      | [] => none
      | first :: others => some (f.versionOfFront (f.frontOf first others)) := by
  unfold versionOf buildsOf
  cases r.builds.filter (·.changelist = some changelist) with
  | nil => rfl
  | cons first others =>
      -- The short version is joined from its segments, so the fold on fronts can start there.
      have hchars : (others.foldl (fun v b => f.merged v b.version) (f.short first.version)).toList
          = joined f.separator (f.frontOf first others) := by
        have hfold := foldl_mergedChars f (f.segmentsOf (f.short first.version))
          (others.map fun b => b.version.toList) (not_mem_of_mem_segments f.separator _)
        rw [VersionFormat.segmentsOf, joined_segments, List.map_map] at hfold
        rw [VersionFormat.toList_foldl_merged, hfold]
        rfl
      simp only [Option.some.injEq]
      rw [VersionFormat.versionOfFront, ← hchars, String.ofList_toList]

/-- The first build of a changelist and the set of the others decide its version. -/
theorem versionOf_congr (r r' : Release) (changelist : String) (f : VersionFormat) (first : Build)
    (others others' : List Build) (h : r.buildsOf changelist = first :: others)
    (h' : r'.buildsOf changelist = first :: others') (hsame : ∀ b, b ∈ others ↔ b ∈ others') :
    r'.versionOf changelist f = r.versionOf changelist f := by
  have hfront : f.frontOf first others = f.frontOf first others' := by
    refine LongestFront.unique _ _ _ _ (f.represents_front first others).longest
      (f.represents_front first others').longest fun l => ?_
    simp only [List.mem_cons, List.mem_map, hsame]
  simp only [versionOf_eq, h, h', hfront]

/-- The version of a changelist represents its builds, and there is none exactly if it has no
    builds. It stays the same if the builds after the first one are rearranged or repeated, whatever
    becomes of the builds of other changelists, and if such a build comes in between or is left
    out. -/
theorem versionOf_represents (r : Release) (changelist : String) (f : VersionFormat) :
    (r.versionOf changelist f = none ↔ r.buildsOf changelist = []) ∧
    (∀ first others, r.buildsOf changelist = first :: others →
      (∃ v front, r.versionOf changelist f = some v ∧ f.Represents first others front v) ∧
      ∀ (r' : Release) (others' : List Build), r'.buildsOf changelist = first :: others' →
        (∀ b, b ∈ others ↔ b ∈ others') →
        r'.versionOf changelist f = r.versionOf changelist f) ∧
    ∀ before b after, b.changelist ≠ some changelist →
      { r with builds := before ++ b :: after }.versionOf changelist f
        = { r with builds := before ++ after }.versionOf changelist f := by
  refine ⟨?_, fun first others h => ⟨?_, fun r' others' h' hsame => ?_⟩,
    fun before b after hb => ?_⟩
  · rw [versionOf_eq]
    cases r.buildsOf changelist <;> simp only [reduceCtorEq]
  · refine ⟨_, f.frontOf first others, ?_, f.represents_front first others⟩
    rw [versionOf_eq, h]
  · exact versionOf_congr r r' changelist f first others others' h h' hsame
  · -- A build of another changelist is no build of this one, wherever it stands.
    have hbuilds : { r with builds := before ++ b :: after }.buildsOf changelist
        = { r with builds := before ++ after }.buildsOf changelist := by
      rw [buildsOf, buildsOf, List.filter_append, List.filter_append,
        List.filter_cons_of_neg (by rwa [decide_eq_true_eq])]
    rw [versionOf_eq, versionOf_eq, hbuilds]

/-- Versions with separators at their front and beside each other, and builds of another changelist
    among them. -/
theorem versionOf_represents_table :
    let build (v : String) : Build := { version := v, changelist := some "9" }
    let other : Build := { version := "6.0-1", changelist := some "8" }
    let first := build "-5.2--7-a"
    let r : Release :=
      { id := "r", name := "five", version := "5.2-%"
        builds := [first, other, build "-5.2--8-b", build "-5.2-"] }
    let r' : Release :=
      { r with builds := [first, build "-5.2-", build "-5.2--8-b", other, build "-5.2-"] }
    r.buildsOf "9" = [first, build "-5.2--8-b", build "-5.2-"] ∧
    r'.buildsOf "9" = [first, build "-5.2-", build "-5.2--8-b", build "-5.2-"] ∧
    r.versionOf "9" {} = some "-5.2-" ∧
    (∃ v front, r.versionOf "9" {} = some v ∧
      VersionFormat.Represents {} first [build "-5.2--8-b", build "-5.2-"] front v) ∧
    r'.versionOf "9" {} = r.versionOf "9" {} ∧
    other.changelist ≠ some "9" ∧
    r.versionOf "9" {} = { r with builds := r.buildsOf "9" }.versionOf "9" {} := by
  intro build other first r r'
  have hbuilds : r.buildsOf "9" = [first, build "-5.2--8-b", build "-5.2-"] := by decide
  have hbuilds' : r'.buildsOf "9" = [first, build "-5.2-", build "-5.2--8-b", build "-5.2-"] := by
    decide
  have hmem : ∀ x y b : Build, b ∈ [x, y] ↔ b ∈ [y, x, y] := by
    intro x y b
    simp only [List.mem_cons, List.not_mem_nil, or_false]
    tauto
  have hother : other.changelist ≠ some "9" := by decide
  rcases versionOf_represents r "9" {} with ⟨-, hrepresents, hforeign⟩
  rcases hrepresents first _ hbuilds with ⟨hversion, hsame⟩
  refine ⟨hbuilds, hbuilds', by decide +kernel, hversion, ?_, hother, ?_⟩
  · exact hsame r' _ hbuilds' (hmem _ _)
  · rw [hbuilds]
    exact hforeign [first] other [build "-5.2--8-b", build "-5.2-"] hother

end Release

end RunReport
