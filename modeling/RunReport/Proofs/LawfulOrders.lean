import RunReport.Proofs.Order

/-!
# Orders That Leave Sorts No Choice

The two comparisons as total preorders, and the one result that each sort and each search by them
can have.

A comparison tells some elements apart and leaves others alike. The priority of a status is its
place in a list, and every status has its own, so comparing priorities tells statuses apart. With
this each comparison says exactly which records or groups are alike: those that agree in all parts
that it looks at (`priorityOrder_eq_iff`, `compare_eq_iff`).

What is alike may still differ in other fields, so that a list is sorted says too little to know
it. A stable sort keeps those that are alike in the order of the list, which is `StablySorts`. Two
lists that are both stable sorts of a third are the same: the heads are each no greater than the
other, so they are alike, and then both are the first of their kind (`eq_of_alike`).

## Main definitions

* `IsTotalPreorder`: A comparison that is antisymmetric up to exchange, transitive and total.
* `alike`: The elements that a comparison does not tell from a given one.
* `StablySorts`: An ascending list in which elements that are alike keep their order.

## Theorems

* `isTotalPreorder_of_transCmp`: The laws of an order make a total preorder.
* `stablySorts_mergeSort`: Sorting is stable.
* `mem_of_alike`, `isLE_head`: What is in a list, and what its head is if it ascends.
* `eq_of_alike`, `stablySorts_iff`: There is one stable sort.
* `priorityOrder_eq_iff`, `compare_eq_iff`: What the comparisons leave alike.
* `comesFirst_iff`: The walk finds the one record that comes first.
* `comparisons_lawful`: All of it for records and groups.
-/

namespace RunReport

section Comparisons

variable {α : Type}

/-- A comparison by which any elements can be put into an order. -/
structure IsTotalPreorder (cmp : α → α → Ordering) : Prop where
  swap : ∀ a b, cmp a b = (cmp b a).swap
  trans : ∀ a b c, (cmp a b).isLE → (cmp b c).isLE → (cmp a c).isLE
  total : ∀ a b, (cmp a b).isLE ∨ (cmp b a).isLE

/-- The elements of a list that a comparison does not tell from a given one. -/
def alike (cmp : α → α → Ordering) (x : α) (xs : List α) : List α :=
  xs.filter fun y => (cmp x y).isEq

/-- A list that holds the elements of another in ascending order. Those that are alike stand in it
    as they stood in the other, which leaves none out, since each is like itself. -/
structure StablySorts (cmp : α → α → Ordering) (xs out : List α) : Prop where
  ascending : out.Pairwise fun a b => (cmp a b).isLE
  keeps : ∀ x, alike cmp x out = alike cmp x xs

variable (cmp : α → α → Ordering)

theorem mem_alike (x y : α) (xs : List α) : y ∈ alike cmp x xs ↔ y ∈ xs ∧ cmp x y = .eq := by
  rw [alike, List.mem_filter, Ordering.isEq_iff_eq_eq]

/-- An element in front that is like the given one is the first that is. -/
theorem alike_cons_of_eq (x y : α) (ys : List α) (h : cmp x y = .eq) :
    alike cmp x (y :: ys) = y :: alike cmp x ys := by
  have hy : (cmp x y).isEq := Ordering.isEq_iff_eq_eq.mpr h
  exact List.filter_cons_of_pos hy

theorem alike_cons_of_ne (x y : α) (ys : List α) (h : cmp x y ≠ .eq) :
    alike cmp x (y :: ys) = alike cmp x ys := by
  have hy : ¬(cmp x y).isEq := fun hy => h (Ordering.isEq_iff_eq_eq.mp hy)
  exact List.filter_cons_of_neg hy

variable [Std.TransCmp cmp]

theorem isTotalPreorder_of_transCmp : IsTotalPreorder cmp where
  swap _ _ := Std.OrientedCmp.eq_swap
  trans _ _ _ := Std.TransCmp.isLE_trans
  total a b := by
    have h := isLE_or_isLE cmp a b
    rwa [Bool.or_eq_true] at h

/-- Sorting puts those that are alike into the order that they had: leaving the others out before
    the sort leaves nothing to be sorted. -/
theorem stablySorts_mergeSort (xs : List α) :
    StablySorts cmp xs (xs.mergeSort fun a b => (cmp a b).isLE) := by
  refine ⟨pairwise_isLE_mergeSort cmp xs, fun x => ?_⟩
  rw [alike, filter_mergeSort cmp, ← alike]
  refine List.mergeSort_of_pairwise (List.pairwise_of_forall_mem_list fun a ha b hb => ?_)
  have hxa := ((mem_alike cmp x a xs).mp ha).2
  have hxb := ((mem_alike cmp x b xs).mp hb).2
  have hab : cmp a b = .eq := Std.TransCmp.eq_trans (Std.OrientedCmp.eq_symm hxa) hxb
  exact Ordering.isLE_of_eq_eq hab

/-- What is in one of two lists with the same elements of each kind is in the other, since every
    element is like itself. -/
theorem mem_of_alike (as bs : List α) (h : ∀ x, alike cmp x as = alike cmp x bs) (x : α)
    (hx : x ∈ as) : x ∈ bs := by
  have hin : x ∈ alike cmp x as := (mem_alike cmp x x as).mpr ⟨hx, Std.ReflCmp.compare_self⟩
  rw [h] at hin
  exact ((mem_alike cmp x x bs).mp hin).1

/-- The head of an ascending list is no greater than any element. -/
theorem isLE_head (x y : α) (xs : List α) (h : (x :: xs).Pairwise fun a b => (cmp a b).isLE)
    (hy : y ∈ x :: xs) : (cmp x y).isLE := by
  rw [List.pairwise_cons] at h
  rcases List.mem_cons.mp hy with rfl | hy
  · exact Std.ReflCmp.isLE_rfl
  · exact h.1 y hy

/-- Ascending lists with the same elements of each kind are the same. -/
theorem eq_of_alike (as bs : List α) (has : as.Pairwise fun a b => (cmp a b).isLE)
    (hbs : bs.Pairwise fun a b => (cmp a b).isLE) (h : ∀ x, alike cmp x as = alike cmp x bs) :
    as = bs := by
  have hin := mem_of_alike cmp as bs h
  have hin' := mem_of_alike cmp bs as fun x => (h x).symm
  induction as generalizing bs with
  | nil => exact (List.eq_nil_iff_forall_not_mem.mpr fun x hx => List.not_mem_nil (hin' x hx)).symm
  | cons x as ih =>
      cases bs with
      | nil => exact absurd (hin x List.mem_cons_self) List.not_mem_nil
      | cons y bs =>
          -- Each head is in the other list, so neither is greater, and both are the first of
          -- their kind.
          have hle := isLE_head cmp x y as has (hin' y List.mem_cons_self)
          have hge := isLE_head cmp y x bs hbs (hin x List.mem_cons_self)
          have hheads := h x
          rw [alike_cons_of_eq cmp x x as Std.ReflCmp.compare_self,
            alike_cons_of_eq cmp x y bs (Std.OrientedCmp.isLE_antisymm hle hge)] at hheads
          rcases List.cons.inj hheads with ⟨rfl, -⟩
          have htails : ∀ z, alike cmp z as = alike cmp z bs := by
            intro z
            have hz := h z
            by_cases hzx : cmp z x = .eq
            · rw [alike_cons_of_eq cmp z x as hzx, alike_cons_of_eq cmp z x bs hzx] at hz
              exact (List.cons.inj hz).2
            · rwa [alike_cons_of_ne cmp z x as hzx, alike_cons_of_ne cmp z x bs hzx] at hz
          rw [ih bs (List.pairwise_cons.mp has).2 (List.pairwise_cons.mp hbs).2 htails
            (mem_of_alike cmp as bs htails) (mem_of_alike cmp bs as fun z => (htails z).symm)]

/-- A list is the stable sort of another exactly if it is what sorting gives. -/
theorem stablySorts_iff (xs out : List α) :
    StablySorts cmp xs out ↔ out = xs.mergeSort fun a b => (cmp a b).isLE := by
  have hsort := stablySorts_mergeSort cmp xs
  constructor
  · intro h
    exact eq_of_alike cmp _ _ h.ascending hsort.ascending fun x =>
      (h.keeps x).trans (hsort.keeps x).symm
  · intro h
    rwa [h]

end Comparisons

/-- Statuses are told apart by their priorities. -/
theorem Status.compare_priority_eq_iff (s s' : Status) :
    compare s.priority s'.priority = .eq ↔ s = s' := by
  rw [Std.LawfulEqOrd.compare_eq_iff_eq]
  exact ⟨eq_of_priority_eq s s', congrArg priority⟩

namespace TestRecord

/-- Records are alike if they agree in status, whole milliseconds and id. -/
theorem priorityOrder_eq_iff (a b : TestRecord) :
    priorityOrder a b = .eq ↔
      a.status = b.status ∧ a.elapsedMillis = b.elapsedMillis ∧ a.id = b.id := by
  unfold priorityOrder
  rw [Ordering.then_eq_eq, Ordering.then_eq_eq, Status.compare_priority_eq_iff,
    Std.LawfulEqOrd.compare_eq_iff_eq, Std.LawfulEqOrd.compare_eq_iff_eq,
    @eq_comm _ b.elapsedMillis]

/-- The walk finds the record that comes first, and there is one such record. -/
theorem comesFirst_iff (ts : List TestRecord) (r : TestRecord) :
    ComesFirst r ts ↔ first? ts = some r := by
  refine ⟨fun h => ?_, comesFirst_of_first? ts r⟩
  rcases first?_isSome ts (List.ne_nil_of_mem (comesFirst_mem r ts h)) with ⟨r', hr'⟩
  -- Both are in front of the sorted list.
  have hfront := head?_sorted r' ts (comesFirst_of_first? ts r' hr')
  rw [head?_sorted r ts h] at hfront
  rw [hr', hfront]

end TestRecord

/-- Groups are alike if they have the same name and, if that is compared, the same status. -/
theorem GroupOrder.compare_eq_iff (o : GroupOrder) (a b : TestGroup) :
    o.compare a b = .eq ↔ a.name = b.name ∧ (o = .priority → a.status = b.status) := by
  have hname : Ord.compare a.name b.name = .eq ↔ a.name = b.name :=
    Std.LawfulEqOrd.compare_eq_iff_eq
  cases o with
  | name =>
      simp only [GroupOrder.compare, hname, reduceCtorEq, false_implies, and_true]
  | priority =>
      rw [GroupOrder.compare, Ordering.then_eq_eq, Status.compare_priority_eq_iff, hname]
      simp only [true_implies]
      exact and_comm

/-- Both comparisons are total preorders, with exactly those records or groups alike that agree in
    what is compared. So every list of records has one stable sort and, unless it is empty, one
    first record, and every list of groups has one stable sort for each order. -/
theorem comparisons_lawful :
    IsTotalPreorder TestRecord.priorityOrder ∧
    (∀ a b, TestRecord.priorityOrder a b = .eq ↔
      a.status = b.status ∧ a.elapsedMillis = b.elapsedMillis ∧ a.id = b.id) ∧
    (∀ ts out, StablySorts TestRecord.priorityOrder ts out ↔ out = TestRecord.sorted ts) ∧
    (∀ ts r, TestRecord.ComesFirst r ts ↔ TestRecord.first? ts = some r) ∧
    ∀ o : GroupOrder, IsTotalPreorder o.compare ∧
      (∀ a b, o.compare a b = .eq ↔ a.name = b.name ∧ (o = .priority → a.status = b.status)) ∧
      ∀ gs out, StablySorts o.compare gs out ↔ out = TestGroup.sorted o.compare gs :=
  ⟨isTotalPreorder_of_transCmp _, TestRecord.priorityOrder_eq_iff, stablySorts_iff _,
    TestRecord.comesFirst_iff, fun o =>
      ⟨isTotalPreorder_of_transCmp _, o.compare_eq_iff, stablySorts_iff _⟩⟩

end RunReport
