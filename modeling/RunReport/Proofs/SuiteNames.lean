import RunReport.Proofs.Numeral
import RunReport.Proofs.SuiteTotals

/-!
# Names of Suites

Which tests come together under one name.

The line of a test goes by a text. It is the group name of the test if that is not blank, and else a
name made up for it, after its suite or for having none. The made-up names are told apart
(`fallback_inj`): the number of a suite can be read back from its numeral, and `Ungrouped` begins
with another letter than `Suite`. A group name can be any text, and nothing keeps it from being one
of the made-up names. So two tests have one line if they belong together (`BelongTogether`), and in
one more case only, when the group name of one is the name that was made up for the other
(`Borrows`).

`rows_separate` says of a list of tests when its lines keep apart what does not belong together. No
condition on the list is needed for one half of it: tests that belong together are always in one
line, and made-up lines never take in each other's tests.

## Main definitions

* `SuiteSummary.groupOf`, `SuiteSummary.fallback`: The two sources of the name of a line.
* `SuiteSummary.BelongTogether`, `SuiteSummary.Borrows`: The two ways to have one name.
* `SuiteSummary.membersOf`, `SuiteSummary.ShareRow`: The tests that a line is made of.

## Theorems

* `nameOf_eq`: The name of a line from its two sources.
* `text_inj`, `fallback_inj`: Made-up names are told apart.
* `nameOf_eq_iff`: When two tests have one name.
* `mem_membersOf`, `mem_ungrouped`: What a line is made of.
* `eq_ofBucket_of_mem`: A line is built up from its members.
* `shareRow_iff`: Two tests of a list share a line if they have one name.
* `rows_separate`: When the lines of a list keep apart what does not belong together.
* `rows_borrowed`: Lines that take in tests of a group with a made-up name.
-/

namespace RunReport

/-- A numeral is the numeral of one number only, since it reads back as that number. -/
theorem Numeral.text_inj (m n : Nat) : text m = text n ↔ m = n := by
  refine ⟨fun h => ?_, congrArg text⟩
  have hdigits : decimal m = decimal n := String.ofList_injective h
  have hvalue := valueOf?_decimal m
  rw [hdigits, valueOf?_decimal] at hvalue
  exact (Option.some.inj hvalue).symm

namespace SuiteSummary

/-- The group name of a test without the blanks around it, if there is anything else in it. -/
def groupOf (t : TestRecord) : Option String :=
  (t.groupName.map trimmed).filter (· ≠ "")

/-- The name for the tests of a suite that have no group name; suite 0 is none. -/
def fallback (suiteId : UInt64) : String :=
  if suiteId = 0 then ungrouped else "Suite " ++ Numeral.text suiteId.toNat

/-- The name of a line is the group name, or else one made up from the suite. -/
theorem nameOf_eq (t : TestRecord) : nameOf t = (groupOf t).getD (fallback t.suiteId) := by
  have hfallback : nameOf.fallback t = fallback t.suiteId := by
    unfold nameOf.fallback fallback TestRecord.hasSuite
    by_cases hzero : t.suiteId = 0
    · rw [if_pos hzero, hzero]
      rfl
    · have hpos : 0 < t.suiteId := UInt64.pos_iff_ne_zero.mpr hzero
      rw [if_neg hzero, if_pos (decide_eq_true hpos)]
  unfold nameOf groupOf
  rw [hfallback]
  cases t.groupName.map trimmed with
  | none => rfl
  | some name =>
      by_cases hblank : name = ""
      · rw [Option.filter_some, hblank]
        rfl
      · rw [Option.filter_some, if_pos (decide_eq_true hblank)]
        simp only [hblank, ne_eq, not_false_eq_true, if_true, Option.getD_some]

/-- Different suites have different names, and none of them is called as tests without a suite
    are. -/
theorem fallback_inj (a b : UInt64) : fallback a = fallback b ↔ a = b := by
  have hother : ∀ n, "Suite " ++ Numeral.text n ≠ ungrouped := by
    intro n h
    -- The first letters of the two names differ.
    have hhead := congrArg (fun s => s.toList.head?) h
    have hsuite : "Suite ".toList.head? = some 'S' := rfl
    have hnone : ungrouped.toList.head? = some 'U' := rfl
    rw [String.toList_append, List.head?_append, hsuite, hnone, Option.some_or] at hhead
    exact absurd hhead (by decide)
  refine ⟨fun h => ?_, congrArg fallback⟩
  unfold fallback at h
  by_cases ha : a = 0
  · by_cases hb : b = 0
    · rw [ha, hb]
    · rw [if_pos ha, if_neg hb] at h
      exact absurd h.symm (hother _)
  · by_cases hb : b = 0
    · rw [if_neg ha, if_pos hb] at h
      exact absurd h (hother _)
    · rw [if_neg ha, if_neg hb, String.append_right_inj, Numeral.text_inj] at h
      exact UInt64.toNat_inj.mp h

/-! ### Tests with one name -/

/-- Two tests belong together: they have one group name, or none and one suite. -/
def BelongTogether (t u : TestRecord) : Prop :=
  groupOf t = groupOf u ∧ (groupOf t = none → t.suiteId = u.suiteId)

instance (t u : TestRecord) : Decidable (BelongTogether t u) :=
  inferInstanceAs (Decidable (_ ∧ _))

/-- The group name of a test is the name that is made up for another one. -/
def Borrows (t u : TestRecord) : Prop :=
  groupOf u = none ∧ groupOf t = some (fallback u.suiteId)

instance (t u : TestRecord) : Decidable (Borrows t u) :=
  inferInstanceAs (Decidable (_ ∧ _))

/-- Two tests have one name if they belong together or one has a name made up for the other. -/
theorem nameOf_eq_iff (t u : TestRecord) :
    nameOf t = nameOf u ↔ BelongTogether t u ∨ Borrows t u ∨ Borrows u t := by
  rw [nameOf_eq, nameOf_eq, BelongTogether, Borrows, Borrows]
  cases groupOf t with
  | some a =>
      cases groupOf u with
      | some b => simp
      | none => simp
  | none =>
      cases groupOf u with
      | some b => simp [eq_comm]
      | none => simp [fallback_inj]

/-! ### Tests of one line -/

/-- The tests that a line is made of. -/
def membersOf (tests : List TestRecord) (name : String) : List TestRecord :=
  (Bucket.gather nameOf tests name).members

theorem mem_membersOf (tests : List TestRecord) (name : String) (t : TestRecord) :
    t ∈ membersOf tests name ↔ t ∈ tests ∧ nameOf t = name := by
  rw [membersOf, Bucket.gather, List.mem_filter, decide_eq_true_eq]

/-- A line is built up from its members. -/
theorem eq_ofBucket_of_mem (h : Highlighter) (tests : List TestRecord) (s : SuiteSummary)
    (hs : s ∈ ofTests h tests) : s = ofBucket h ⟨s.name, membersOf tests s.name⟩ := by
  rw [ofTests_eq] at hs
  rcases List.mem_map.mp hs with ⟨n, _, rfl⟩
  rw [name_ofBucket, Bucket.key_gather]
  rfl

/-- Some line of a list of tests is made of both tests. -/
def ShareRow (h : Highlighter) (tests : List TestRecord) (t u : TestRecord) : Prop :=
  ∃ s ∈ ofTests h tests, t ∈ membersOf tests s.name ∧ u ∈ membersOf tests s.name

/-- Two tests of a list share a line if they have one name. -/
theorem shareRow_iff (h : Highlighter) (tests : List TestRecord) (t u : TestRecord)
    (ht : t ∈ tests) (hu : u ∈ tests) : ShareRow h tests t u ↔ nameOf t = nameOf u := by
  constructor
  · rintro ⟨s, -, hts, hus⟩
    rw [((mem_membersOf ..).mp hts).2, ((mem_membersOf ..).mp hus).2]
  · intro hname
    refine ⟨ofBucket h (Bucket.gather nameOf tests (nameOf t)), ?_, ?_⟩
    · rw [ofTests_eq]
      exact List.mem_map_of_mem (List.mem_eraseDups.mpr (List.mem_map_of_mem ht))
    · rw [name_ofBucket, Bucket.key_gather]
      exact ⟨(mem_membersOf ..).mpr ⟨ht, rfl⟩, (mem_membersOf ..).mpr ⟨hu, hname.symm⟩⟩

/-- The line of the tests without a group and a suite, and what else it is made of. -/
theorem mem_ungrouped (tests : List TestRecord) (t : TestRecord) :
    t ∈ membersOf tests ungrouped ↔
      t ∈ tests ∧ ((groupOf t = none ∧ t.suiteId = 0) ∨ groupOf t = some ungrouped) := by
  have hzero : fallback t.suiteId = ungrouped ↔ t.suiteId = 0 := fallback_inj t.suiteId 0
  rw [mem_membersOf, nameOf_eq]
  cases groupOf t with
  | none => simp [hzero]
  | some name => simp

/-- When the lines of a list keep apart what does not belong together.

    A line is made of the tests that have its name, and no two lines have one name. Tests that
    belong together share a line, and other tests share one only if the group name of one is the
    name made up for the other. So `Ungrouped` collects just the tests without a group and a suite
    if no group has that name, the line of a suite collects tests of other suites only if their
    group has its name, and lines keep apart all that does not belong together if no test borrows
    the name of another. -/
theorem rows_separate (h : Highlighter) (tests : List TestRecord) :
    ((ofTests h tests).map SuiteSummary.name).Nodup ∧
    (∀ s ∈ ofTests h tests, s = ofBucket h ⟨s.name, membersOf tests s.name⟩) ∧
    (∀ t ∈ tests, ∀ u ∈ tests,
      (ShareRow h tests t u ↔ BelongTogether t u ∨ Borrows t u ∨ Borrows u t)) ∧
    ((∀ t, t ∈ membersOf tests ungrouped ↔ t ∈ tests ∧ groupOf t = none ∧ t.suiteId = 0) ↔
      ∀ t ∈ tests, groupOf t ≠ some ungrouped) ∧
    (∀ t ∈ tests, groupOf t = none → t.suiteId ≠ 0 →
      ((∀ u ∈ tests, ShareRow h tests t u → u.suiteId = t.suiteId) ↔
        ∀ u ∈ tests, groupOf u = some ("Suite " ++ Numeral.text t.suiteId.toNat) →
          u.suiteId = t.suiteId)) ∧
    ((∀ t ∈ tests, ∀ u ∈ tests, (ShareRow h tests t u ↔ BelongTogether t u)) ↔
      ∀ t ∈ tests, ∀ u ∈ tests, ¬ Borrows t u) := by
  have hshare : ∀ t ∈ tests, ∀ u ∈ tests,
      (ShareRow h tests t u ↔ BelongTogether t u ∨ Borrows t u ∨ Borrows u t) := by
    intro t ht u hu
    rw [shareRow_iff h tests t u ht hu, nameOf_eq_iff]
  have hapart : ∀ t u, Borrows t u → ¬ BelongTogether t u := by
    rintro t u ⟨hu, ht⟩ ⟨hsame, -⟩
    rw [hu, ht] at hsame
    exact absurd hsame (Option.some_ne_none _)
  refine ⟨?_, eq_ofBucket_of_mem h tests, hshare, ?_, fun t ht hgroup hsuite => ?_, ?_⟩
  · have hnames : (ofTests h tests).map SuiteSummary.name = (tests.map nameOf).eraseDups :=
      (summing h).map_name_collect tests
    rw [hnames]
    exact Bucket.nodup_eraseDups _
  · -- A test of a group that is called `Ungrouped` is in the line, and it has a group.
    constructor
    · intro hexact t ht hgroup
      have hboth := (hexact t).mp ((mem_ungrouped tests t).mpr ⟨ht, .inr hgroup⟩)
      rw [hgroup] at hboth
      exact absurd hboth.2.1 (Option.some_ne_none _)
    · intro hnone t
      rw [mem_ungrouped]
      exact and_congr_right fun ht => or_iff_left (hnone t ht)
  · have hname : fallback t.suiteId = "Suite " ++ Numeral.text t.suiteId.toNat := if_neg hsuite
    rw [← hname]
    constructor
    · intro hsame u hu hborrow
      exact hsame u hu ((hshare t ht u hu).mpr (.inr (.inr ⟨hgroup, hborrow⟩)))
    · intro hborrow u hu hrow
      rcases (hshare t ht u hu).mp hrow with htogether | ⟨-, hother⟩ | ⟨-, hother⟩
      · exact (htogether.2 hgroup).symm
      · -- The name is made up for the other test only if that has a group name, and `t` has none.
        rw [hgroup] at hother
        exact absurd hother.symm (Option.some_ne_none _)
      · exact hborrow u hu hother
  · constructor
    · intro hexact t ht u hu hborrow
      exact hapart t u hborrow
        ((hexact t ht u hu).mp ((hshare t ht u hu).mpr (.inr (.inl hborrow))))
    · intro hnone t ht u hu
      rw [hshare t ht u hu]
      exact or_iff_left (not_or.mpr ⟨hnone t ht u hu, hnone u hu t ht⟩)

/-- Lines that take in tests of a group with a made-up name: a group that is called as tests without
    a group and a suite are, and one that is called as the third suite is. -/
theorem rows_borrowed :
    let h : Highlighter := default
    let named : TestRecord := { id := 1, displayName := "a", groupName := some " Ungrouped " }
    let bare : TestRecord := { id := 2, displayName := "b" }
    let called : TestRecord := { id := 3, displayName := "c", groupName := some "Suite 3" }
    let third : TestRecord := { id := 4, displayName := "d", suiteId := 3 }
    let tests := [named, bare, called, third]
    (ofTests h tests).map (fun s => (s.name, s.totals.total)) = [("Ungrouped", 2), ("Suite 3", 2)] ∧
    (named ∈ membersOf tests ungrouped ∧ groupOf named ≠ none) ∧
    (ShareRow h tests named bare ∧ ¬ BelongTogether named bare) ∧
    (ShareRow h tests third called ∧ groupOf third = none ∧ called.suiteId ≠ third.suiteId) := by
  intro h named bare called third tests
  refine ⟨by decide +kernel, ⟨by decide +kernel, by decide +kernel⟩, ⟨?_, by decide +kernel⟩,
    ?_, by decide +kernel, by decide +kernel⟩
  · exact (shareRow_iff h tests named bare (by decide +kernel) (by decide +kernel)).mpr
      (by decide +kernel)
  · exact (shareRow_iff h tests third called (by decide +kernel) (by decide +kernel)).mpr
      (by decide +kernel)

end SuiteSummary

end RunReport
