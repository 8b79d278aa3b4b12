import RunReport.Proofs.Bucket

/-!
# Lines with an Index of their Places

Collecting elements under their keys one at a time, with the line of each key at hand.

`Bucket.ofList` sorts all elements first, and what is shown of a bucket is made of its members
afterwards. For groups that is the bucket itself, for suites a line of totals. A report that grows
with the records would do both at once: look up the line of a record, add the record to it, or open
a new line for it. `Collector` is what such a walk needs to know about its lines, and `join` is one
step of it. A line is made of the members of a bucket in their order, so a step on the lines is a
step on the buckets (`join_map_line`), and the walk ends in the lines of the sorted elements
(`collect_append`).

A search through all lines takes longer with every new one. `Indexed` keeps the place of every line
under its name instead, and carries the proof that the places are those a search would find. A line
keeps its name and its place for good, so a record that joins a line leaves the index alone, and a
new line is the only one of its name.

## Main definitions

* `Collector`: What a line starts as, and how an element joins it.
* `Collector.line`, `Collector.collect`: The line of a bucket, and the lines of a list.
* `Collector.join`: The lines after one more element.
* `Collector.Indexed`: Lines with an index of their places, and `Collector.indexed` those of a list.

## Theorems

* `line_concat`, `name_line`: The last member of a bucket is the last to be added.
* `map_name_collect`: The names of the lines are the keys of the elements.
* `join_map_line`: A step on the lines is a step on the buckets.
* `collect_concat`, `collect_append`: More elements join the lines one by one.
* `collect_filter`: Lines are left out before or after the elements are collected.
* `findIdx?_modify`, `findIdx?_concat`: What a search finds after a step.
* `lines_add`: A step with the index is a step without it.
* `lines_indexed`: The index makes no difference to the lines.
-/

namespace RunReport

/-- A way to collect elements under their keys: what the line of a key starts as, and how an element
    joins a line. A line goes by its key, whatever has joined it. -/
structure Collector (κ α β : Type) where
  key : α → κ
  name : β → κ
  empty : κ → β
  add : β → α → β
  name_empty : ∀ k, name (empty k) = k
  name_add : ∀ line x, name (add line x) = name line

namespace Collector

variable {κ α β : Type} (c : Collector κ α β)

/-- The line of a bucket. -/
def line (b : Bucket κ α) : β :=
  b.members.foldl c.add (c.empty b.key)

/-- The last member of a bucket is the last to join its line. -/
theorem line_concat (k : κ) (ms : List α) (x : α) :
    c.line ⟨k, ms ++ [x]⟩ = c.add (c.line ⟨k, ms⟩) x := by
  rw [line, line, List.foldl_append, List.foldl_cons, List.foldl_nil]

theorem name_line (b : Bucket κ α) : c.name (c.line b) = b.key := by
  rcases b with ⟨k, ms⟩
  induction ms using List.reverseRecOn with
  | nil => exact c.name_empty k
  | append_singleton ms x ih => rw [line_concat, c.name_add, ih]

variable [DecidableEq κ]

/-- The lines of the elements of a list. -/
def collect (xs : List α) : List β :=
  (Bucket.ofList c.key xs).map c.line

/-- The lines after one more element: it joins the line of its key, or opens one behind the
    others. -/
def join (lines : List β) (x : α) : List β :=
  match lines.findIdx? (c.name · = c.key x) with
  | some place => lines.modify place (c.add · x)
  | none => lines ++ [c.add (c.empty (c.key x)) x]

/-- The lines have the keys of the elements for names, each where it first occurs. -/
theorem map_name_collect (xs : List α) : (c.collect xs).map c.name = (xs.map c.key).eraseDups := by
  rw [collect, List.map_map, ← Bucket.map_key_ofList]
  exact List.map_congr_left fun b _ => c.name_line b

/-! ### Steps on the lines -/

/-- A step on the lines is a step on the buckets. The walk over the buckets stops where a search in
    the lines does. -/
theorem join_map_line (bs : List (Bucket κ α)) (x : α) :
    c.join (bs.map c.line) x = (Bucket.add c.key bs x).map c.line := by
  induction bs with
  | nil => rfl
  | cons b bs ih =>
      rw [join, List.map_cons, List.findIdx?_cons, name_line, Bucket.add]
      by_cases hb : b.key = c.key x
      · rw [if_pos (decide_eq_true hb), if_pos hb, List.map_cons, line_concat]
        exact List.modify_zero_cons _ _ _
      · rw [if_neg (by rw [decide_eq_true_iff]; exact hb), if_neg hb, List.map_cons, ← ih, join]
        cases (bs.map c.line).findIdx? (c.name · = c.key x) with
        | none => rfl
        | some place => exact List.modify_succ_cons _ _ _ _

theorem collect_concat (xs : List α) (x : α) : c.collect (xs ++ [x]) = c.join (c.collect xs) x := by
  rw [collect, collect, join_map_line, Bucket.ofList, Bucket.ofList, List.foldl_append,
    List.foldl_cons, List.foldl_nil]

/-- More elements join the lines one by one. -/
theorem collect_append (xs more : List α) :
    c.collect (xs ++ more) = more.foldl c.join (c.collect xs) := by
  induction more using List.reverseRecOn with
  | nil => rw [List.append_nil, List.foldl_nil]
  | append_singleton more x ih =>
      rw [← List.append_assoc, collect_concat, ih, List.foldl_append, List.foldl_cons,
        List.foldl_nil]

/-- Lines can be left out by their names, or the elements before they are collected. -/
theorem collect_filter (p : κ → Bool) (xs : List α) :
    (c.collect xs).filter (fun line => p (c.name line))
      = c.collect (xs.filter fun x => p (c.key x)) := by
  have hnames : ((fun line => p (c.name line)) ∘ c.line) = fun b : Bucket κ α => p b.key :=
    funext fun b => congrArg p (c.name_line b)
  rw [collect, collect, List.filter_map, hnames, Bucket.filter_ofList]

/-! ### The index -/

/-- An element that joins a line leaves every line at its place. -/
theorem findIdx?_modify (lines : List β) (place : Nat) (x : α) (k : κ) :
    (lines.modify place (c.add · x)).findIdx? (c.name · = k)
      = lines.findIdx? (c.name · = k) := by
  induction lines generalizing place with
  | nil => rw [List.modify_nil]
  | cons line lines ih =>
      cases place with
      | zero => rw [List.modify_zero_cons, List.findIdx?_cons, List.findIdx?_cons, c.name_add]
      | succ place => rw [List.modify_succ_cons, List.findIdx?_cons, List.findIdx?_cons, ih]

/-- A line behind the others is found if no other has its name. -/
theorem findIdx?_concat (lines : List β) (line : β) (k : κ)
    (hnew : lines.findIdx? (c.name · = c.name line) = none) :
    (lines ++ [line]).findIdx? (c.name · = k)
      = if c.name line = k then some lines.length else lines.findIdx? (c.name · = k) := by
  rw [List.findIdx?_append, List.findIdx?_singleton]
  by_cases hk : c.name line = k
  · rw [← hk, hnew, if_pos rfl, decide_eq_true rfl]
    simp only [if_true, Option.map_some, Nat.zero_add, Option.none_or]
  · rw [if_neg hk, decide_eq_false hk]
    simp only [Bool.false_eq_true, if_false, Option.map_none, Option.or_none]

variable [Hashable κ]

/-- Lines with an index of their places. The index has the place where a search for a name ends. -/
structure Indexed where
  places : Std.HashMap κ Nat
  lines : List β
  agrees : ∀ k, places[k]? = lines.findIdx? (c.name · = k)

namespace Indexed

variable {c}

/-- No lines, and an index without places. -/
def empty : c.Indexed where
  places := ∅
  lines := []
  agrees := fun _ => Std.HashMap.getElem?_empty

/-- The lines after one more element, by the index alone. -/
def add (s : c.Indexed) (x : α) : c.Indexed :=
  match h : s.places[c.key x]? with
  | some place =>
    { places := s.places
      lines := s.lines.modify place (c.add · x)
      agrees := fun k => by rw [c.findIdx?_modify, s.agrees] }
  | none =>
    { places := s.places.insert (c.key x) s.lines.length
      lines := s.lines ++ [c.add (c.empty (c.key x)) x]
      agrees := fun k => by
        have hname : c.name (c.add (c.empty (c.key x)) x) = c.key x := by
          rw [c.name_add, c.name_empty]
        have hnew := (s.agrees (c.key x)).symm.trans h
        rw [c.findIdx?_concat _ _ k (hname.symm ▸ hnew), Std.HashMap.getElem?_insert, hname,
          s.agrees]
        simp only [beq_iff_eq] }

/-- A step with the index is a step without it. -/
theorem lines_add (s : c.Indexed) (x : α) : (s.add x).lines = c.join s.lines x := by
  unfold add join
  rw [← s.agrees]
  split
  next place h => simp only [h]
  next h => simp only [h]

end Indexed

/-- The lines of a list, collected with an index. -/
def indexed (xs : List α) : c.Indexed :=
  xs.foldl Indexed.add Indexed.empty

/-- The index makes no difference to the lines. -/
theorem lines_indexed (xs : List α) : (c.indexed xs).lines = c.collect xs := by
  induction xs using List.reverseRecOn with
  | nil => rfl
  | append_singleton xs x ih =>
      have hlast : c.indexed (xs ++ [x]) = (c.indexed xs).add x := by
        rw [indexed, indexed, List.foldl_append, List.foldl_cons, List.foldl_nil]
      rw [hlast, Indexed.lines_add, ih, collect_concat]

end Collector

end RunReport
