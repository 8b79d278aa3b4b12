import Mathlib.Data.List.Induction
import Mathlib.Data.List.Nodup
import RunReport.Bucket

/-!
# Buckets as a Partition

What sorting a list into buckets gives, said without the walk that does it.

`Bucket.add` looks for a bucket and rewrites it, so after a few elements the buckets are the outcome
of as many walks, and none of them shows what the whole list has become. `ofList_eq` gives the
closed form: the keys of the buckets are the keys of the list, each where it first occurs, and the
members of a bucket are the elements of its key in the order of the list. It is proved by adding an
element at the end, because that is where `Bucket.ofList` adds it; the two outcomes of the walk are
`add_gather_of_mem` and `add_gather_of_not_mem`.

From the closed form it follows that no element is lost and none is put into two buckets.
`flatMap_filter_perm` says so for any list of keys that covers the elements and has no repetitions,
in whatever order the keys stand. A report may list its groups in another order than that of the
file, and the elements are still all there.

A bucket is made from the elements of its key and from no others. So a bucket can be left out before
the elements are sorted as well as after (`filter_ofList`), and elements that come bucket by bucket
are sorted into the buckets that they came from (`ofList_flatMap_members`).

## Main definitions

* `Bucket.gather`: The bucket of a key among the elements of a list.
* `Bucket.WellSorted`: Buckets as a list can have them.

## Theorems

* `eraseDups_concat`: One more element at the end is kept if it is new.
* `nodup_eraseDups`: No element is kept twice.
* `gather_concat_self`, `gather_concat_of_ne`: What one more element does to a bucket.
* `add_gather_of_mem`, `add_gather_of_not_mem`: The two outcomes of the walk.
* `add_of_not_mem`, `add_concat`: A new bucket, and one more element of the last bucket.
* `ofList_eq`: The buckets of a list in closed form.
* `map_key_ofList`: The keys of the buckets, in the order in which they first occur.
* `flatMap_filter_perm`: Keys that cover a list without repetitions lose and double nothing.
* `flatMap_members_perm`: The members of all buckets are the elements of the list.
* `eraseDups_filter`, `gather_filter`: What is left of the keys and of a bucket.
* `filter_ofList`: Buckets are left out before or after the elements are sorted.
* `wellSorted_ofList`: The buckets of a list are well sorted.
* `foldl_add_of_not_mem`: Elements of a new key fill one bucket behind the others.
* `ofList_flatMap_members`: Buckets are those of their members.
-/

namespace RunReport

namespace Bucket

variable {κ α : Type} [DecidableEq κ]

/-- One more element at the end is kept if it is new. -/
theorem eraseDups_concat (ks : List κ) (k : κ) :
    (ks ++ [k]).eraseDups = if k ∈ ks then ks.eraseDups else ks.eraseDups ++ [k] := by
  rw [List.eraseDups_append]
  by_cases hk : k ∈ ks
  · have hnew : [k].removeAll ks = [] := by
      simp only [List.removeAll, List.elem_eq_mem, hk, decide_true, Bool.not_true,
        List.filter_cons_of_neg, List.filter_nil, Bool.false_eq_true, not_false_eq_true]
    rw [hnew, if_pos hk, List.eraseDups_nil, List.append_nil]
  · have hnew : [k].removeAll ks = [k] := by
      simp only [List.removeAll, List.elem_eq_mem, hk, decide_false, Bool.not_false,
        List.filter_cons_of_pos, List.filter_nil]
    rw [hnew, if_neg hk]
    rfl

/-- No element is kept twice. -/
theorem nodup_eraseDups (ks : List κ) : ks.eraseDups.Nodup := by
  induction ks using List.reverseRecOn with
  | nil => exact List.nodup_nil
  | append_singleton ks k ih =>
      rw [eraseDups_concat]
      by_cases hk : k ∈ ks
      · rw [if_pos hk]
        exact ih
      · rw [if_neg hk, List.nodup_append]
        refine ⟨ih, List.nodup_singleton k, fun a ha b hb hab => hk ?_⟩
        rw [← List.mem_singleton.mp hb, ← hab]
        exact List.mem_eraseDups.mp ha

/-- The bucket of a key among the elements of a list. -/
def gather (key : α → κ) (xs : List α) (k : κ) : Bucket κ α :=
  ⟨k, xs.filter (key · = k)⟩

theorem key_gather (key : α → κ) (xs : List α) (k : κ) : (gather key xs k).key = k :=
  rfl

/-- One more element goes to the end of the bucket of its key. -/
theorem gather_concat_self (key : α → κ) (xs : List α) (x : α) :
    gather key (xs ++ [x]) (key x) = ⟨key x, (gather key xs (key x)).members ++ [x]⟩ := by
  simp only [gather, List.filter_append, decide_true, List.filter_cons_of_pos, List.filter_nil]

/-- One more element leaves the buckets of the other keys as they are. -/
theorem gather_concat_of_ne (key : α → κ) (xs : List α) (x : α) (k : κ) (hk : key x ≠ k) :
    gather key (xs ++ [x]) k = gather key xs k := by
  simp only [gather, List.filter_append, hk, decide_false, List.filter_nil, List.append_nil,
    List.filter_cons_of_neg, Bool.false_eq_true, not_false_eq_true]

/-- An element whose key is there joins its bucket and no other. The keys must be distinct: the
    walk stops at the first bucket that fits. -/
theorem add_gather_of_mem (key : α → κ) (xs : List α) (x : α) (ks : List κ) (hd : ks.Nodup)
    (hx : key x ∈ ks) :
    add key (ks.map (gather key xs)) x = ks.map (gather key (xs ++ [x])) := by
  induction ks with
  | nil => exact absurd hx List.not_mem_nil
  | cons k ks ih =>
      have hk : k ∉ ks := (List.nodup_cons.mp hd).1
      have hks : ks.Nodup := (List.nodup_cons.mp hd).2
      rw [List.map_cons, List.map_cons, add, key_gather]
      by_cases he : k = key x
      · -- The walk stops here, and the rest has no bucket of this key.
        subst he
        have hrest : ks.map (gather key (xs ++ [x])) = ks.map (gather key xs) :=
          List.map_congr_left fun k' hk' =>
            gather_concat_of_ne key xs x k' fun h => hk (h ▸ hk')
        rw [if_pos rfl, gather_concat_self, hrest]
      · have hx' : key x ∈ ks := (List.mem_cons.mp hx).resolve_left fun h => he h.symm
        rw [if_neg he, ih hks hx', gather_concat_of_ne key xs x k fun h => he h.symm]

/-- An element of a new key opens a bucket behind the others. -/
theorem add_of_not_mem (key : α → κ) (bs : List (Bucket κ α)) (x : α)
    (hx : key x ∉ bs.map Bucket.key) : add key bs x = bs ++ [⟨key x, [x]⟩] := by
  induction bs with
  | nil => rfl
  | cons b bs ih =>
      rw [List.map_cons, List.mem_cons, not_or] at hx
      rw [add, if_neg fun h => hx.1 h.symm, ih hx.2, List.cons_append]

/-- An element whose key is not there opens a bucket, and no other bucket changes. -/
theorem add_gather_of_not_mem (key : α → κ) (xs : List α) (x : α) (ks : List κ)
    (hx : key x ∉ ks) :
    add key (ks.map (gather key xs)) x
      = ks.map (gather key (xs ++ [x])) ++ [⟨key x, [x]⟩] := by
  have hkeys : (ks.map (gather key xs)).map Bucket.key = ks := by
    rw [List.map_map]
    exact List.map_id ks
  have hsame : ks.map (gather key xs) = ks.map (gather key (xs ++ [x])) :=
    List.map_congr_left fun k hk => (gather_concat_of_ne key xs x k fun h => hx (h ▸ hk)).symm
  rw [add_of_not_mem key _ x (hkeys.symm ▸ hx), hsame]

/-- The buckets of a list in closed form: each key where it first occurs, with the elements that
    have it in the order of the list. -/
theorem ofList_eq (key : α → κ) (xs : List α) :
    ofList key xs = (xs.map key).eraseDups.map (gather key xs) := by
  induction xs using List.reverseRecOn with
  | nil => rfl
  | append_singleton xs x ih =>
      have hstep : ofList key (xs ++ [x]) = add key (ofList key xs) x := by
        simp only [ofList, List.foldl_append, List.foldl_cons, List.foldl_nil]
      rw [hstep, ih, List.map_append, List.map_singleton, eraseDups_concat]
      by_cases hx : key x ∈ xs.map key
      · rw [if_pos hx]
        exact add_gather_of_mem key xs x _ (nodup_eraseDups _) (List.mem_eraseDups.mpr hx)
      · -- The new bucket is the closed form too: no earlier element had this key.
        have hnone : (gather key xs (key x)).members = [] := by
          refine List.filter_eq_nil_iff.mpr fun y hy he => hx ?_
          rw [← of_decide_eq_true he]
          exact List.mem_map_of_mem hy
        rw [if_neg hx, add_gather_of_not_mem key xs x _ (fun h => hx (List.mem_eraseDups.mp h)),
          List.map_append, List.map_singleton, gather_concat_self, hnone, List.nil_append]

/-- The keys of the buckets, in the order in which they first occur. -/
theorem map_key_ofList (key : α → κ) (xs : List α) :
    (ofList key xs).map Bucket.key = (xs.map key).eraseDups := by
  rw [ofList_eq, List.map_map]
  exact List.map_id _

/-- Keys that cover a list and are not repeated lose no element and double none. Setting the
    elements of the first key apart leaves a list that the other keys cover. -/
theorem flatMap_filter_perm (key : α → κ) (ks : List κ) (hd : ks.Nodup) (xs : List α)
    (hc : ∀ x ∈ xs, key x ∈ ks) :
    (ks.flatMap fun k => xs.filter (key · = k)).Perm xs := by
  induction ks generalizing xs with
  | nil =>
      have hxs : xs = [] := List.eq_nil_iff_forall_not_mem.mpr fun x hx =>
        List.not_mem_nil (hc x hx)
      rw [hxs]
      exact List.Perm.nil
  | cons k ks ih =>
      have hk : k ∉ ks := (List.nodup_cons.mp hd).1
      let others := xs.filter fun x => !decide (key x = k)
      have hothers : ∀ x ∈ others, key x ∈ ks := by
        intro x hx
        have hmem := List.mem_filter.mp hx
        have hne : key x ≠ k := by
          simpa only [Bool.not_eq_true', decide_eq_false_iff_not] using hmem.2
        exact (List.mem_cons.mp (hc x hmem.1)).resolve_left hne
      -- The other keys pick the same elements from what is left as from the whole list.
      have hsame : (ks.flatMap fun k' => xs.filter (key · = k'))
          = ks.flatMap fun k' => others.filter (key · = k') := by
        refine List.flatMap_congr fun k' hk' => ?_
        rw [List.filter_filter]
        refine List.filter_congr fun x _ => ?_
        by_cases he : key x = k'
        · have hne : key x ≠ k := fun h => hk (h ▸ he ▸ hk')
          simp only [he, decide_true, Bool.true_and, Bool.true_eq, Bool.not_eq_true',
            decide_eq_false_iff_not]
          exact he ▸ hne
        · simp only [he, decide_false, Bool.false_and]
      rw [List.flatMap_cons, hsame]
      exact (List.Perm.append_left _ (ih (List.nodup_cons.mp hd).2 others hothers)).trans
        (List.filter_append_perm (fun x => decide (key x = k)) xs)

/-- The members of all buckets are the elements of the list, each as often as it was there. -/
theorem flatMap_members_perm (key : α → κ) (xs : List α) :
    ((ofList key xs).flatMap Bucket.members).Perm xs := by
  rw [ofList_eq, List.flatMap_map]
  refine flatMap_filter_perm key _ (nodup_eraseDups _) xs fun x hx => ?_
  exact List.mem_eraseDups.mpr (List.mem_map_of_mem hx)

/-! ### Leaving keys out -/

/-- Keys can be left out before or after repetitions are. -/
theorem eraseDups_filter (p : κ → Bool) (ks : List κ) :
    (ks.filter p).eraseDups = ks.eraseDups.filter p := by
  induction ks using List.reverseRecOn with
  | nil => rfl
  | append_singleton ks k ih =>
      rw [List.filter_append, eraseDups_concat]
      by_cases hp : p k
      · have hmem : k ∈ ks.filter p ↔ k ∈ ks := by
          rw [List.mem_filter, and_iff_left hp]
        rw [List.filter_singleton, hp, cond_true, eraseDups_concat, ih]
        by_cases hk : k ∈ ks
        · rw [if_pos hk, if_pos (hmem.mpr hk)]
        · rw [if_neg hk, if_neg fun h => hk (hmem.mp h), List.filter_append,
            List.filter_singleton, hp, cond_true]
      · -- A key that is left out is not seen on either side.
        have hnone : [k].filter p = [] := List.filter_cons_of_neg hp
        rw [hnone, List.append_nil, ih]
        by_cases hk : k ∈ ks
        · rw [if_pos hk]
        · rw [if_neg hk, List.filter_append, hnone, List.append_nil]

/-- A bucket whose key stays keeps its members. -/
theorem gather_filter (key : α → κ) (p : κ → Bool) (xs : List α) (k : κ) (hk : p k) :
    gather key (xs.filter fun x => p (key x)) k = gather key xs k := by
  rw [gather, gather, List.filter_filter]
  congr 1
  refine List.filter_congr fun x _ => ?_
  by_cases he : key x = k
  · rw [he, hk, Bool.and_true]
  · rw [decide_eq_false he, Bool.false_and]

/-- Buckets can be left out by their keys, or the elements before they are sorted. -/
theorem filter_ofList (key : α → κ) (p : κ → Bool) (xs : List α) :
    (ofList key xs).filter (fun b => p b.key) = ofList key (xs.filter fun x => p (key x)) := by
  have hkeys : (xs.filter fun x => p (key x)).map key = (xs.map key).filter p := by
    rw [List.filter_map]
    rfl
  rw [ofList_eq, ofList_eq, List.filter_map, hkeys, eraseDups_filter]
  refine List.map_congr_left fun k hk => ?_
  exact (gather_filter key p xs k (List.mem_filter.mp hk).2).symm

/-! ### Buckets of buckets -/

/-- Buckets as a list can have them: no key is there twice, and each bucket has members, all of its
    key. -/
structure WellSorted (key : α → κ) (bs : List (Bucket κ α)) : Prop where
  nodup : (bs.map Bucket.key).Nodup
  inhabited : ∀ b ∈ bs, b.members ≠ []
  keyed : ∀ b ∈ bs, ∀ x ∈ b.members, key x = b.key

/-- The buckets of a list are such buckets. -/
theorem wellSorted_ofList (key : α → κ) (xs : List α) : WellSorted key (ofList key xs) := by
  constructor
  case nodup =>
    rw [map_key_ofList]
    exact nodup_eraseDups _
  case inhabited =>
    intro b hb
    rw [ofList_eq] at hb
    rcases List.mem_map.mp hb with ⟨k, hk, rfl⟩
    -- A key of the list is the key of an element.
    rcases List.mem_map.mp (List.mem_eraseDups.mp hk) with ⟨x, hx, rfl⟩
    exact List.ne_nil_of_mem (List.mem_filter.mpr ⟨hx, decide_eq_true rfl⟩)
  case keyed =>
    intro b hb x hx
    rw [ofList_eq] at hb
    rcases List.mem_map.mp hb with ⟨k, -, rfl⟩
    exact of_decide_eq_true (List.mem_filter.mp hx).2

/-- An element joins the last bucket if it has the key of that one and of no other. -/
theorem add_concat (key : α → κ) (bs : List (Bucket κ α)) (b : Bucket κ α) (x : α)
    (hx : key x = b.key) (hb : b.key ∉ bs.map Bucket.key) :
    add key (bs ++ [b]) x = bs ++ [⟨b.key, b.members ++ [x]⟩] := by
  induction bs with
  | nil => rw [List.nil_append, List.nil_append, add, if_pos hx.symm]
  | cons b' bs ih =>
      rw [List.map_cons, List.mem_cons, not_or] at hb
      have hne : b'.key ≠ key x := fun h => hb.1 (by rw [h, hx])
      rw [List.cons_append, add, if_neg hne, ih hb.2, List.cons_append]

/-- Elements of a new key fill one bucket behind the others. -/
theorem foldl_add_of_not_mem (key : α → κ) (bs : List (Bucket κ α)) (k : κ)
    (hk : k ∉ bs.map Bucket.key) (xs : List α) (hne : xs ≠ []) (hxs : ∀ x ∈ xs, key x = k) :
    xs.foldl (add key) bs = bs ++ [⟨k, xs⟩] := by
  induction xs using List.reverseRecOn with
  | nil => exact absurd rfl hne
  | append_singleton xs x ih =>
      rw [List.forall_mem_append, List.forall_mem_singleton] at hxs
      rw [List.foldl_append, List.foldl_cons, List.foldl_nil]
      by_cases hfirst : xs = []
      · -- The first of them opens the bucket that the others find.
        subst hfirst
        rw [List.foldl_nil, List.nil_append, add_of_not_mem key bs x (hxs.2 ▸ hk), hxs.2]
      · rw [ih hfirst hxs.1, add_concat key bs ⟨k, xs⟩ x hxs.2 hk]

/-- Such buckets are those of their members, taken bucket by bucket. -/
theorem ofList_flatMap_members (key : α → κ) (bs : List (Bucket κ α)) (h : WellSorted key bs) :
    ofList key (bs.flatMap Bucket.members) = bs := by
  induction bs using List.reverseRecOn with
  | nil => rfl
  | append_singleton bs b ih =>
      have hnodup := h.nodup
      have hinhabited := h.inhabited
      have hkeyed := h.keyed
      rw [List.map_append, List.map_singleton, List.nodup_append] at hnodup
      rw [List.forall_mem_append, List.forall_mem_singleton] at hinhabited hkeyed
      have hnew : b.key ∉ bs.map Bucket.key := fun hmem =>
        hnodup.2.2 b.key hmem b.key (List.mem_singleton_self _) rfl
      have hbs := ih ⟨hnodup.1, hinhabited.1, hkeyed.1⟩
      rw [ofList] at hbs
      rw [List.flatMap_append, List.flatMap_singleton, ofList, List.foldl_append, hbs]
      exact foldl_add_of_not_mem key bs b.key hnew b.members hinhabited.2 hkeyed.2

end Bucket

end RunReport
