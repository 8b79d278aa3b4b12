import Mathlib.Data.List.Nodup
import RunReport.Group

/-!
# The Orders of Records and Groups

What the two comparisons guarantee, and what is picked and sorted by them.

Both comparisons are lexicographic, so the laws of an order come from those of their parts and
nothing has to be checked case by case. What matters to a report is how much they tell apart: two
records compare equal only if their ids agree, and two groups only if their names agree. An order
that tells all elements of a list apart leaves a sort no choice, and the place of an element in the
list that was sorted no longer shows.

`ComesFirst` is what a collapsed group shows, stated without the walk that finds it. `first?` keeps
the best record so far and lets a later one take its place only if it is strictly better, so the
invariant of the walk splits the records seen so far at the best one: those before it are strictly
worse, those after it no better. `comesFirst_foldl` carries it through the list.

Sorts are stable, and that is enough to leave elements out before or after them
(`filter_mergeSort`). An element is sorted into a list at one place, behind everything less. Leaving
others out does not move this place.

## Main definitions

* `TestRecord.ComesFirst`: A record that is least among some records, the earliest of equals.
* `TestRecord.leastPriority`: The least priority among some records.

## Theorems

* `eq_of_append_eq_append`: There is one place to cut a list where a property ends.
* `isLE_or_isLE`: Of two elements one is no greater than the other.
* `pairwise_isLE_mergeSort`, `mergeSort_cons_split`: What a sort gives, and where an element goes.
* `filter_mergeSort`: Sorting and leaving elements out can be done in either order.
* `eq_of_priority_eq`: Every status has a priority of its own.
* `id_eq_of_priorityOrder_eq`: Records that compare equal have the same id.
* `priority_le_of_isLE`: A record that is no worse than another has no greater priority.
* `comesFirst_mem`, `comesFirst_isLE`: The first record is one of them and no worse than any.
* `comesFirst_concat_of_lt`, `comesFirst_concat_of_not_lt`: What one more record does to it.
* `comesFirst_foldl`: The walk keeps the best record so far.
* `comesFirst_of_first?`: What the walk finds comes first.
* `first?_isSome`: The walk finds a record if there is one.
* `head?_sorted`: A stable sort puts it in front.
* `comesFirst_unique_of_perm`: With distinct ids the first record does not depend on the order.
* `leastPriority_perm`: The least priority does not depend on the order.
* `leastPriority_of_comesFirst`: It is that of the record that comes first.
* `name_eq_of_compare_eq`: Groups that compare equal have the same name.
* `compare_text_eq_lt`: Texts are compared as they are ordered.
* `moreSignificant_priority`: The more significant of two statuses has the lesser priority.
* `status_priority`: The priority of a group is the least among its members.
* `status_of_comesFirst`: Its status is that of the record that comes first.
* `sorted_perm`: Sorting only rearranges groups.
* `filter_sorted`: Sorting groups and leaving some out can be done in either order.
* `sorted_pairwise_lt`: Groups with distinct names are sorted strictly.
-/

namespace RunReport

/-! ### Stable sorts -/

section Sorts

variable {α : Type}

/-- There is one place to cut a list between elements that have a property and others that have it
    not. -/
theorem eq_of_append_eq_append (p : α → Bool) (as as' bs bs' : List α)
    (h : as ++ bs = as' ++ bs') (has : ∀ x ∈ as, p x) (has' : ∀ x ∈ as', p x)
    (hbs : ∀ x ∈ bs, p x = false) (hbs' : ∀ x ∈ bs', p x = false) : as = as' ∧ bs = bs' := by
  have hfront : ∀ xs ys : List α, (∀ x ∈ xs, p x) → (∀ y ∈ ys, p y = false) →
      (xs ++ ys).filter p = xs := by
    intro xs ys hxs hys
    have hnone : ys.filter p = [] :=
      List.filter_eq_nil_iff.mpr fun y hy => by rw [hys y hy]; decide
    rw [List.filter_append, List.filter_eq_self.mpr hxs, hnone, List.append_nil]
  have heq : as = as' := by
    rw [← hfront as bs has hbs, h, hfront as' bs' has' hbs']
  refine ⟨heq, ?_⟩
  rw [heq] at h
  exact List.append_cancel_left h

variable (cmp : α → α → Ordering) [Std.TransCmp cmp]

/-- Of two elements one is no greater than the other. -/
theorem isLE_or_isLE (a b : α) : ((cmp a b).isLE || (cmp b a).isLE) = true := by
  rw [Bool.or_eq_true]
  by_cases hab : (cmp a b).isLE
  · exact Or.inl hab
  · exact Or.inr (Ordering.isLE_of_eq_lt (Std.OrientedCmp.lt_of_not_isLE hab))

theorem pairwise_isLE_mergeSort (xs : List α) :
    (xs.mergeSort fun a b => (cmp a b).isLE).Pairwise fun a b => (cmp a b).isLE :=
  List.pairwise_mergeSort (fun _ _ _ => Std.TransCmp.isLE_trans) (isLE_or_isLE cmp) xs

/-- An element is sorted in before the first one that it is not greater than: what stands before it
    is less, and what stands behind it is not. -/
theorem mergeSort_cons_split (x : α) (xs : List α) :
    ∃ front rest, (x :: xs).mergeSort (fun a b => (cmp a b).isLE) = front ++ x :: rest ∧
      xs.mergeSort (fun a b => (cmp a b).isLE) = front ++ rest ∧
      (∀ y ∈ front, !(cmp x y).isLE) ∧ ∀ y ∈ rest, (!(cmp x y).isLE) = false := by
  have htrans : ∀ a b c, (cmp a b).isLE → (cmp b c).isLE → (cmp a c).isLE :=
    fun _ _ _ => Std.TransCmp.isLE_trans
  rcases List.mergeSort_cons htrans (isLE_or_isLE cmp) x xs with
    ⟨front, rest, hcons, hxs, hfront⟩
  have hsorted := pairwise_isLE_mergeSort cmp (x :: xs)
  rw [hcons, List.pairwise_append, List.pairwise_cons] at hsorted
  refine ⟨front, rest, hcons, hxs, hfront, fun y hy => ?_⟩
  rw [hsorted.2.1.1 y hy]
  rfl

/-- Sorting and leaving elements out can be done in either order, since equal elements keep their
    places. -/
theorem filter_mergeSort (keep : α → Bool) (xs : List α) :
    (xs.mergeSort fun a b => (cmp a b).isLE).filter keep
      = (xs.filter keep).mergeSort fun a b => (cmp a b).isLE := by
  induction xs with
  | nil => simp only [List.mergeSort_nil, List.filter_nil]
  | cons x xs ih =>
      rcases mergeSort_cons_split cmp x xs with ⟨front, rest, hcons, hxs, hfront, hrest⟩
      rw [hxs, List.filter_append] at ih
      rw [hcons, List.filter_append]
      by_cases hx : keep x
      · -- The element is sorted into what is left at the same place, between the lesser elements
        -- and the others.
        rcases mergeSort_cons_split cmp x (xs.filter keep) with
          ⟨front', rest', hcons', hxs', hfront', hrest'⟩
        rw [hxs'] at ih
        have hsplit := eq_of_append_eq_append (fun y => !(cmp x y).isLE) (front.filter keep) front'
          (rest.filter keep) rest' ih (fun y hy => hfront y (List.mem_filter.mp hy).1) hfront'
          (fun y hy => hrest y (List.mem_filter.mp hy).1) hrest'
        rw [List.filter_cons_of_pos hx, List.filter_cons_of_pos hx, hcons', hsplit.1, hsplit.2]
      · rw [List.filter_cons_of_neg hx, List.filter_cons_of_neg hx, ih]

end Sorts

/-! ### Records -/

/-- Every status has a priority of its own. -/
theorem Status.eq_of_priority_eq (s s' : Status) (h : s.priority = s'.priority) : s = s' := by
  have hlisted : s ∈ listed := by cases s <;> decide
  exact (List.idxOf_inj hlisted).mp h

namespace TestRecord

instance priorityOrder_transCmp : Std.TransCmp priorityOrder :=
  inferInstanceAs <| Std.TransCmp <|
    compareLex (compareOn fun t : TestRecord => t.status.priority) <|
      compareLex (fun a b => compareOn elapsedMillis b a) (compareOn TestRecord.id)

/-- Records that compare equal have the same id, the id being the last part of the comparison. -/
theorem id_eq_of_priorityOrder_eq (a b : TestRecord) (h : priorityOrder a b = .eq) :
    a.id = b.id := by
  unfold priorityOrder at h
  rw [Ordering.then_eq_eq, Ordering.then_eq_eq] at h
  exact Std.LawfulEqOrd.eq_of_compare h.2.2

/-- A record comes first among some records: those before it are strictly worse, and those after
    it are no better. -/
def ComesFirst (r : TestRecord) (ts : List TestRecord) : Prop :=
  ∃ before after, ts = before ++ r :: after ∧
    (∀ x ∈ before, priorityOrder r x = .lt) ∧ ∀ x ∈ after, (priorityOrder r x).isLE

theorem comesFirst_mem (r : TestRecord) (ts : List TestRecord) (h : ComesFirst r ts) :
    r ∈ ts := by
  rcases h with ⟨before, after, rfl, _, _⟩
  exact List.mem_append_right before List.mem_cons_self

/-- The record that comes first is no worse than any of them. -/
theorem comesFirst_isLE (r : TestRecord) (ts : List TestRecord) (h : ComesFirst r ts) :
    ∀ x ∈ ts, (priorityOrder r x).isLE := by
  rcases h with ⟨before, after, rfl, hbefore, hafter⟩
  intro x hx
  rcases List.mem_append.mp hx with hx | hx
  · exact Ordering.isLE_of_eq_lt (hbefore x hx)
  · rcases List.mem_cons.mp hx with rfl | hx
    · exact Std.ReflCmp.isLE_rfl
    · exact hafter x hx

/-- A record that is strictly better than the best so far takes its place. -/
theorem comesFirst_concat_of_lt (best x : TestRecord) (ts : List TestRecord)
    (h : ComesFirst best ts) (hlt : priorityOrder x best = .lt) :
    ComesFirst x (ts ++ [x]) := by
  refine ⟨ts, [], rfl, fun y hy => ?_, fun y hy => absurd hy List.not_mem_nil⟩
  exact Std.TransCmp.lt_of_lt_of_isLE hlt (comesFirst_isLE best ts h y hy)

/-- Any other record is added behind the best so far. -/
theorem comesFirst_concat_of_not_lt (best x : TestRecord) (ts : List TestRecord)
    (h : ComesFirst best ts) (hlt : priorityOrder x best ≠ .lt) :
    ComesFirst best (ts ++ [x]) := by
  rcases h with ⟨before, after, rfl, hbefore, hafter⟩
  refine ⟨before, after ++ [x], ?_, hbefore, fun y hy => ?_⟩
  · rw [List.append_assoc, List.cons_append]
  · -- The new record may be as good as the best, which is why only `isLE` is asked behind it.
    rcases List.mem_append.mp hy with hy | hy
    · exact hafter y hy
    · rw [List.mem_singleton.mp hy]
      by_contra hle
      exact hlt (Std.OrientedCmp.lt_of_not_isLE hle)

/-- The walk keeps the best record so far. -/
theorem comesFirst_foldl (rest : List TestRecord) :
    ∀ (seen : List TestRecord) (best : TestRecord), ComesFirst best seen →
      ComesFirst (rest.foldl (fun best x => if (priorityOrder x best).isLT then x else best) best)
        (seen ++ rest) := by
  induction rest with
  | nil =>
      intro seen best h
      rw [List.append_nil]
      exact h
  | cons x rest ih =>
      intro seen best h
      -- The record is seen now, so it goes from the rest to the end of what was seen.
      have hsplit : seen ++ x :: rest = seen ++ [x] ++ rest := by
        rw [List.append_assoc, List.singleton_append]
      rw [List.foldl_cons, hsplit]
      refine ih (seen ++ [x]) _ ?_
      by_cases hlt : priorityOrder x best = .lt
      · rw [hlt]
        exact comesFirst_concat_of_lt best x seen h hlt
      · have hnot : (priorityOrder x best).isLT = false := by
          rw [Bool.eq_false_iff, ne_eq, Ordering.isLT_iff_eq_lt]
          exact hlt
        rw [hnot]
        exact comesFirst_concat_of_not_lt best x seen h hlt

/-- What the walk finds comes first. -/
theorem comesFirst_of_first? (ts : List TestRecord) (r : TestRecord)
    (h : first? ts = some r) : ComesFirst r ts := by
  cases ts with
  | nil => exact absurd h (by simp only [first?, reduceCtorEq, not_false_eq_true])
  | cons t ts =>
      simp only [first?, Option.some.injEq] at h
      rw [← h]
      -- The walk starts at the first record, which comes first among itself.
      refine comesFirst_foldl ts [t] t ⟨[], [], rfl, ?_, ?_⟩
      · exact fun x hx => absurd hx List.not_mem_nil
      · exact fun x hx => absurd hx List.not_mem_nil

/-- The walk finds a record if there is one. -/
theorem first?_isSome (ts : List TestRecord) (h : ts ≠ []) : ∃ r, first? ts = some r := by
  cases ts with
  | nil => exact absurd rfl h
  | cons t ts => exact ⟨_, rfl⟩

/-- A stable sort puts the record in front that comes first. The records before it are sorted in
    behind it, since it is less than each of them. -/
theorem head?_sorted (r : TestRecord) (ts : List TestRecord) (h : ComesFirst r ts) :
    (sorted ts).head? = some r := by
  rcases h with ⟨before, after, rfl, hbefore, hafter⟩
  unfold sorted
  induction before with
  | nil =>
      rcases mergeSort_cons_split priorityOrder r after with ⟨front, rest, hcons, hsort, hfront, -⟩
      have hnone : front = [] := by
        refine List.eq_nil_iff_forall_not_mem.mpr fun x hx => ?_
        have hmem : x ∈ after := by
          rw [← List.mem_mergeSort, hsort]
          exact List.mem_append_left rest hx
        have hgreater := hfront x hx
        rw [hafter x hmem] at hgreater
        exact absurd hgreater Bool.false_ne_true
      rw [List.nil_append, hcons, hnone, List.nil_append, List.head?_cons]
  | cons b before ih =>
      rw [List.forall_mem_cons] at hbefore
      rcases mergeSort_cons_split priorityOrder b (before ++ r :: after) with
        ⟨front, rest, hcons, hsort, -, hrest⟩
      have hhead := ih hbefore.2
      rw [hsort] at hhead
      rw [List.cons_append, hcons]
      cases front with
      | nil =>
          -- The new record would stand before `r`, which is less.
          have hmem : r ∈ rest := List.mem_of_head? hhead
          have hle : (priorityOrder b r).isLE := by
            have hnot := hrest r hmem
            rwa [Bool.not_eq_false'] at hnot
          have hlt : priorityOrder r r = .lt := Std.TransCmp.lt_of_lt_of_isLE hbefore.1 hle
          have heq : priorityOrder r r = .eq := Std.ReflCmp.compare_self
          rw [heq] at hlt
          exact absurd hlt (by decide)
      | cons x front => exact hhead

/-- With distinct ids the record that comes first does not depend on the order of the records: of
    two such records each is no worse than the other, so their ids agree. -/
theorem comesFirst_unique_of_perm (r r' : TestRecord) (ts ts' : List TestRecord)
    (hperm : ts.Perm ts') (hids : (ts.map TestRecord.id).Nodup)
    (h : ComesFirst r ts) (h' : ComesFirst r' ts') : r = r' := by
  have hr : r ∈ ts := comesFirst_mem r ts h
  have hr' : r' ∈ ts := hperm.mem_iff.mpr (comesFirst_mem r' ts' h')
  have hle : (priorityOrder r r').isLE := comesFirst_isLE r ts h r' hr'
  have hge : (priorityOrder r' r).isLE := comesFirst_isLE r' ts' h' r (hperm.mem_iff.mp hr)
  have hid : r.id = r'.id :=
    id_eq_of_priorityOrder_eq r r' (Std.OrientedCmp.isLE_antisymm hle hge)
  exact List.inj_on_of_nodup_map hids hr hr' hid

/-- The least priority among the statuses of some records; that of `unknown` if there are none. -/
def leastPriority (ts : List TestRecord) : Nat :=
  (ts.map fun t => t.status.priority).min?.getD Status.unknown.priority

/-- The least priority does not depend on the order of the records. -/
theorem leastPriority_perm (ts ts' : List TestRecord) (hperm : ts.Perm ts') :
    leastPriority ts = leastPriority ts' := by
  have hmap := hperm.map fun t => t.status.priority
  unfold leastPriority
  congr 1
  cases hmin : (ts.map fun t => t.status.priority).min? with
  | none =>
      rw [List.min?_eq_none_iff] at hmin
      rw [hmin] at hmap
      rw [← hmap.nil_eq, List.min?_nil]
  | some n =>
      -- The minimum is a member below all others, and both parts survive a rearrangement.
      rw [List.min?_eq_some_iff] at hmin
      refine (List.min?_eq_some_iff.mpr ⟨hmap.mem_iff.mp hmin.1, fun b hb => ?_⟩).symm
      exact hmin.2 b (hmap.mem_iff.mpr hb)

/-- A record that is no worse than another has no greater priority, the priority being the first
    part of the comparison. -/
theorem priority_le_of_isLE (a b : TestRecord) (h : (priorityOrder a b).isLE) :
    a.status.priority ≤ b.status.priority := by
  by_contra hlt
  have hgt : compare a.status.priority b.status.priority = .gt :=
    Nat.compare_eq_gt.mpr (Nat.lt_of_not_le hlt)
  rw [priorityOrder, hgt] at h
  exact Bool.false_ne_true h

/-- The record that comes first has the least priority. -/
theorem leastPriority_of_comesFirst (r : TestRecord) (ts : List TestRecord)
    (h : ComesFirst r ts) : leastPriority ts = r.status.priority := by
  have hmin : (ts.map fun t => t.status.priority).min? = some r.status.priority := by
    refine List.min?_eq_some_iff.mpr ⟨List.mem_map_of_mem (comesFirst_mem r ts h), fun n hn => ?_⟩
    rcases List.mem_map.mp hn with ⟨t, ht, rfl⟩
    exact priority_le_of_isLE r t (comesFirst_isLE r ts h t ht)
  rw [leastPriority, hmin, Option.getD_some]

end TestRecord

/-! ### Groups -/

namespace GroupOrder

instance compare_transCmp (o : GroupOrder) : Std.TransCmp o.compare :=
  match o with
  | .name => inferInstanceAs <| Std.TransCmp <| compareOn TestGroup.name
  | .priority =>
    inferInstanceAs <| Std.TransCmp <|
      compareLex (compareOn fun g : TestGroup => g.status.priority) (compareOn TestGroup.name)

/-- Groups that compare equal have the same name: in either order the name is the last part of the
    comparison. -/
theorem name_eq_of_compare_eq (o : GroupOrder) (a b : TestGroup) (h : o.compare a b = .eq) :
    a.name = b.name := by
  cases o with
  | name => exact Std.LawfulEqOrd.eq_of_compare h
  | priority =>
      -- Equal priorities leave the decision to the names.
      unfold GroupOrder.compare at h
      rw [Ordering.then_eq_eq] at h
      exact Std.LawfulEqOrd.eq_of_compare h.2

/-- Texts are compared as they are ordered. -/
theorem compare_text_eq_lt (a b : String) : Ord.compare a b = .lt ↔ a < b := by
  change compareOfLessAndEq a b = .lt ↔ a < b
  exact compareOfLessAndEq_eq_lt

end GroupOrder

namespace TestGroup

/-- The more significant of two statuses has the lesser of the two priorities. -/
theorem moreSignificant_priority (a b : Status) :
    (moreSignificant a b).priority = min a.priority b.priority := by
  unfold moreSignificant
  by_cases h : b.priority < a.priority
  · rw [if_pos h]
    omega
  · rw [if_neg h]
    omega

/-- The priority of a group is the least among its members. -/
theorem status_priority (g : TestGroup) :
    g.status.priority = TestRecord.leastPriority g.tests := by
  have hfold : ∀ (ts : List TestRecord) (s : Status),
      (ts.foldl (fun s x => moreSignificant s x.status) s).priority
        = (ts.map fun t => t.status.priority).foldl min s.priority := by
    intro ts
    induction ts with
    | nil => exact fun s => rfl
    | cons t ts ih =>
        intro s
        rw [List.foldl_cons, ih, moreSignificant_priority, List.map_cons, List.foldl_cons]
  unfold status TestRecord.leastPriority
  cases g.tests with
  | nil => rfl
  | cons t ts => rw [hfold, List.map_cons, List.min?_cons', Option.getD_some]

/-- A group has the status of the record that comes first in it. -/
theorem status_of_comesFirst (g : TestGroup) (r : TestRecord)
    (h : TestRecord.ComesFirst r g.tests) : r.status = g.status := by
  refine Status.eq_of_priority_eq _ _ ?_
  rw [status_priority, TestRecord.leastPriority_of_comesFirst r g.tests h]

theorem sorted_perm (cmp : TestGroup → TestGroup → Ordering) (gs : List TestGroup) :
    (sorted cmp gs).Perm gs :=
  List.mergeSort_perm gs _

/-- Sorting and leaving groups out can be done in either order. -/
theorem filter_sorted (cmp : TestGroup → TestGroup → Ordering) [Std.TransCmp cmp]
    (keep : TestGroup → Bool) (gs : List TestGroup) :
    (sorted cmp gs).filter keep = sorted cmp (gs.filter keep) :=
  filter_mergeSort cmp keep gs

/-- Groups with distinct names are sorted strictly, since no two of them compare equal. -/
theorem sorted_pairwise_lt (o : GroupOrder) (gs : List TestGroup)
    (hd : (gs.map TestGroup.name).Nodup) :
    (sorted o.compare gs).Pairwise fun a b => o.compare a b = .lt := by
  have hle : (sorted o.compare gs).Pairwise fun a b => (o.compare a b).isLE :=
    pairwise_isLE_mergeSort o.compare gs
  have hne : (sorted o.compare gs).Pairwise fun a b => a.name ≠ b.name :=
    List.pairwise_map.mp (((sorted_perm o.compare gs).map TestGroup.name).nodup_iff.mpr hd)
  refine (hle.and hne).imp fun {a b} h => ?_
  rcases Ordering.isLE_iff_eq_lt_or_eq_eq.mp h.1 with hlt | heq
  · exact hlt
  · exact absurd (GroupOrder.name_eq_of_compare_eq o a b heq) h.2

end TestGroup

end RunReport
