import RunReport.Proofs.ChangelistVersion

/-!
# Merging Is a Meet

What merging versions does to the order in which they begin one another.

One version is below another if merging the two gives back the first. On lists of segments that
would be the order of prefixes, and `commonFront` its meet. Versions are texts, though, and a text
forgets one thing: no segments and a single empty segment are both the empty text. So the laws of a
meet are not inherited from the lists as they are. They are proved for fronts, where the empty front
still differs from the front of one empty segment, and `merged_versionOfFront` says that merging
never needs to know which of the two an empty text was.

The empty text then takes the place of both. It is below every version (`empty_merged`), although
only the versions that begin with a separator have an empty first segment, and it is what versions
without a common segment merge to. Every other version below `w` begins `w` segment by segment
(`below_of_prefix`, `below_iff`).

## Main definitions

* `VersionFormat.Below`: Merging with another version changes nothing.
* `VersionFormat.sharedFront`: The segments that two versions share at the front.

## Theorems

* `eq_of_prefix_iff`: Two lists that the same lists begin are equal.
* `commonFront_comm`, `commonFront_assoc`, `commonFront_self`: The laws on lists.
* `commonFront_of_prefix`, `commonFront_concat_of_ne`: What is shared in two simple cases.
* `merged_eq`, `segmentsOf_merged`: The merged version has the shared segments.
* `merged_versionOfFront`: Merging the text of a front.
* `merged_comm`, `merged_assoc`, `merged_self`, `empty_merged`: The laws on versions.
* `below_of_prefix`, `below_iff`: The order as an order of segments.
* `merged_isMeet`: Merging is the meet of the order it makes.
* `merged_isMeet_table`: Versions with separators at their front and beside each other.
-/

namespace RunReport

/-! ### The laws on lists -/

section Lists

variable {α : Type} [DecidableEq α]

omit [DecidableEq α] in
/-- Two lists are equal if the same lists begin them, for each of them begins itself. -/
theorem eq_of_prefix_iff (as bs : List α) (h : ∀ other, other <+: as ↔ other <+: bs) :
    as = bs := by
  have hle : as <+: bs := (h as).mp List.prefix_rfl
  have hge : bs <+: as := (h bs).mpr List.prefix_rfl
  exact hle.eq_of_length_le hge.length_le

theorem commonFront_comm (as bs : List α) : commonFront as bs = commonFront bs as := by
  refine eq_of_prefix_iff _ _ fun other => ?_
  rw [prefix_commonFront_iff, prefix_commonFront_iff, and_comm]

theorem commonFront_assoc (as bs cs : List α) :
    commonFront (commonFront as bs) cs = commonFront as (commonFront bs cs) := by
  refine eq_of_prefix_iff _ _ fun other => ?_
  simp only [prefix_commonFront_iff, and_assoc]

/-- A list shares all of itself with a list that it begins. -/
theorem commonFront_of_prefix (as bs : List α) (h : as <+: bs) : commonFront as bs = as := by
  refine eq_of_prefix_iff _ _ fun other => ?_
  rw [prefix_commonFront_iff]
  exact ⟨fun hboth => hboth.1, fun hle => ⟨hle, hle.trans h⟩⟩

theorem commonFront_self (as : List α) : commonFront as as = as :=
  commonFront_of_prefix as as List.prefix_rfl

/-- Lists that differ in the last element only share the rest. -/
theorem commonFront_concat_of_ne (as : List α) (x y : α) (h : x ≠ y) :
    commonFront (as ++ [x]) (as ++ [y]) = as := by
  induction as with
  | nil => exact if_neg h
  | cons a as ih => rw [List.cons_append, List.cons_append, commonFront, if_pos rfl, ih]

/-- What two lists share is the longest list that both begin with. -/
theorem longestFront_commonFront (as bs : List α) :
    LongestFront (commonFront as bs) [as, bs] :=
  longestFront_foldl as [bs]

end Lists

namespace VersionFormat

variable (f : VersionFormat)

/-- One version is below another if merging the two gives back the first. -/
def Below (v w : String) : Prop :=
  f.merged v w = v

/-- The segments that two versions share at the front. -/
def sharedFront (v w : String) : List (List Char) :=
  commonFront (f.segmentsOf v) (f.segmentsOf w)

/-! ### Fronts and their texts -/

/-- No segment of a version has a separator. -/
theorem not_mem_of_mem_segmentsOf (v : String) : ∀ s ∈ f.segmentsOf v, f.separator ∉ s :=
  not_mem_of_mem_segments f.separator v.toList

/-- Neither has a segment that a version shares with another. -/
theorem not_mem_of_mem_sharedFront (v w : String) : ∀ s ∈ f.sharedFront v w, f.separator ∉ s := by
  have hle : f.sharedFront v w <+: f.segmentsOf v :=
    ((prefix_commonFront_iff _ _ _).mp List.prefix_rfl).1
  exact fun s hs => f.not_mem_of_mem_segmentsOf v s (hle.mem hs)

/-- A version is the text of its segments. -/
theorem versionOfFront_segmentsOf (v : String) : f.versionOfFront (f.segmentsOf v) = v := by
  rw [versionOfFront, segmentsOf, joined_segments, String.ofList_toList]

/-- The merged version is the text of the shared segments. -/
theorem merged_eq (v w : String) : f.merged v w = f.versionOfFront (f.sharedFront v w) :=
  rfl

/-- Segments are cut again from their text, if there are any. -/
theorem segmentsOf_versionOfFront (front : List (List Char)) (hne : front ≠ [])
    (hplain : ∀ s ∈ front, f.separator ∉ s) : f.segmentsOf (f.versionOfFront front) = front := by
  rw [segmentsOf, versionOfFront, String.toList_ofList]
  exact segments_joined f.separator front hne hplain

/-- The merged version has the shared segments, if there are any. -/
theorem segmentsOf_merged (v w : String) (hne : f.sharedFront v w ≠ []) :
    f.segmentsOf (f.merged v w) = f.sharedFront v w := by
  rw [merged_eq]
  exact f.segmentsOf_versionOfFront _ hne (f.not_mem_of_mem_sharedFront v w)

/-- Merging the text of a front goes on from the front, even where the text has forgotten it. -/
theorem merged_versionOfFront (front : List (List Char)) (w : String)
    (hplain : ∀ s ∈ front, f.separator ∉ s) :
    f.merged (f.versionOfFront front) w
      = f.versionOfFront (commonFront front (f.segmentsOf w)) := by
  have hchars := mergedChars_joined f front w.toList hplain
  rw [merged, versionOfFront, String.toList_ofList, hchars]
  rfl

/-! ### The laws on versions -/

theorem merged_comm (v w : String) : f.merged v w = f.merged w v := by
  rw [merged_eq, merged_eq, sharedFront, commonFront_comm]
  rfl

/-- The inner merge is on the other side each time, so the law is one of three fronts. -/
theorem merged_assoc (u v w : String) : f.merged (f.merged u v) w = f.merged u (f.merged v w) := by
  have hleft : f.merged (f.merged u v) w
      = f.versionOfFront (commonFront (f.sharedFront u v) (f.segmentsOf w)) := by
    rw [f.merged_eq u v]
    exact f.merged_versionOfFront _ w (f.not_mem_of_mem_sharedFront u v)
  have hright : f.merged u (f.merged v w)
      = f.versionOfFront (commonFront (f.sharedFront v w) (f.segmentsOf u)) := by
    rw [f.merged_comm u, f.merged_eq v w]
    exact f.merged_versionOfFront _ u (f.not_mem_of_mem_sharedFront v w)
  rw [hleft, hright, sharedFront, sharedFront, commonFront_assoc,
    commonFront_comm (commonFront _ _) (f.segmentsOf u)]

theorem merged_self (v : String) : f.merged v v = v := by
  rw [merged_eq, sharedFront, commonFront_self, versionOfFront_segmentsOf]

/-- The empty text absorbs every version: it is the text of no segments. -/
theorem empty_merged (w : String) : f.merged "" w = "" := by
  have hnone := f.merged_versionOfFront [] w fun s hs => absurd hs List.not_mem_nil
  exact hnone

/-! ### The order -/

/-- A version whose segments begin those of another is below it. -/
theorem below_of_prefix (v w : String) (h : f.segmentsOf v <+: f.segmentsOf w) : f.Below v w := by
  rw [Below, merged_eq, sharedFront, commonFront_of_prefix _ _ h, versionOfFront_segmentsOf]

/-- Below a version are the empty text and the versions whose segments begin it. -/
theorem below_iff (v w : String) : f.Below v w ↔ v = "" ∨ f.segmentsOf v <+: f.segmentsOf w := by
  constructor
  · intro h
    by_cases hnone : f.sharedFront v w = []
    · left
      rw [← h, merged_eq, hnone]
      rfl
    · right
      have hsegments := f.segmentsOf_merged v w hnone
      rw [h] at hsegments
      rw [hsegments]
      exact ((prefix_commonFront_iff _ _ _).mp List.prefix_rfl).2
  · rintro (rfl | h)
    · exact f.empty_merged w
    · exact f.below_of_prefix v w h

theorem below_merged_left (v w : String) : f.Below (f.merged v w) v := by
  rw [Below, merged_comm, ← merged_assoc, merged_self]

theorem below_merged_right (v w : String) : f.Below (f.merged v w) w := by
  rw [Below, merged_assoc, merged_self]

/-- A version below both is below what they merge to. -/
theorem below_merged (u v w : String) (hv : f.Below u v) (hw : f.Below u w) :
    f.Below u (f.merged v w) := by
  rw [Below] at hv hw ⊢
  rw [← merged_assoc, hv, hw]

theorem Below.trans (u v w : String) (huv : f.Below u v) (hvw : f.Below v w) : f.Below u w := by
  rw [Below] at huv hvw ⊢
  rw [← huv, merged_assoc, hvw]

theorem Below.antisymm (v w : String) (hvw : f.Below v w) (hwv : f.Below w v) : v = w := by
  rw [Below] at hvw hwv
  rw [← hvw, merged_comm, hwv]

/-- Merging is the meet of the order it makes. The merged version of two versions has the longest
    front of segments that both share, and is empty if they share none. Merging does not depend on
    order, grouping or repetition, and the empty text absorbs every version. Being below is an
    order, that of the segments apart from the empty text, and the merged version is the greatest
    one below both. -/
theorem merged_isMeet (u v w : String) :
    (∃ front, LongestFront front [f.segmentsOf u, f.segmentsOf v] ∧
      (front ≠ [] → f.segmentsOf (f.merged u v) = front) ∧
      (front = [] → f.merged u v = "")) ∧
    (f.merged u v = f.merged v u ∧
      f.merged (f.merged u v) w = f.merged u (f.merged v w) ∧ f.merged u u = u) ∧
    (f.merged "" u = "" ∧ f.merged u "" = "") ∧
    (f.Below u u ∧ (f.Below u v → f.Below v u → u = v) ∧
      (f.Below u v → f.Below v w → f.Below u w)) ∧
    (f.Below u v ↔ u = "" ∨ f.segmentsOf u <+: f.segmentsOf v) ∧
    f.Below (f.merged u v) u ∧ f.Below (f.merged u v) v ∧
    ∀ x, f.Below x u → f.Below x v → f.Below x (f.merged u v) := by
  refine ⟨⟨f.sharedFront u v, longestFront_commonFront _ _, f.segmentsOf_merged u v,
      fun hnone => ?_⟩, ⟨f.merged_comm u v, f.merged_assoc u v w, f.merged_self u⟩,
    ⟨f.empty_merged u, ?_⟩, ⟨f.merged_self u, Below.antisymm f u v, Below.trans f u v w⟩,
    f.below_iff u v, f.below_merged_left u v, f.below_merged_right u v,
    fun x => f.below_merged x u v⟩
  · rw [merged_eq, hnone]
    rfl
  · rw [merged_comm]
    exact f.empty_merged u

/-- Versions with separators at their front and beside each other. The first two share an empty
    segment and two others, and a shorter one is below both. -/
theorem merged_isMeet_table :
    let f : VersionFormat := { separator := '版' }
    let u := "版5.2版版7"
    let v := "版5.2版版8版"
    let w := "版5.2"
    f.merged u v = "版5.2版" ∧ f.sharedFront u v = [[], ['5', '.', '2'], []] ∧
    f.segmentsOf (f.merged u v) = f.sharedFront u v ∧
    (f.Below w u ∧ f.Below w v ∧ f.Below w (f.merged u v)) ∧
    f.merged (f.merged u v) w = f.merged u (f.merged v w) := by
  intro f u v w
  have hfront : f.sharedFront u v = [[], ['5', '.', '2'], []] := by decide +kernel
  have hu : f.Below w u := by
    unfold Below
    decide +kernel
  have hv : f.Below w v := by
    unfold Below
    decide +kernel
  rcases f.merged_isMeet u v w with ⟨-, ⟨-, hassoc, -⟩, -, -, -, -, -, hgreatest⟩
  refine ⟨by decide +kernel, hfront, ?_, ⟨hu, hv, hgreatest w hu hv⟩, hassoc⟩
  exact f.segmentsOf_merged u v (by rw [hfront]; exact List.cons_ne_nil _ _)

end VersionFormat

end RunReport
