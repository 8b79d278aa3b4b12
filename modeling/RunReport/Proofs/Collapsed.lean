import RunReport.Proofs.Listing

/-!
# Collapsed Lists and the Order of the File

A collapsed list does not show in which order its records stood in the file.

Every step of the list depends on that order by itself: groups come up where their first record
stands, the sort keeps equal groups where they were, and of equally good records the first is
picked. What makes the outcome independent is that no such tie is left. Names are distinct, so the
order of groups is strict, and ids are distinct, so one record of a group is better than all others.
A list that is not collapsed shows the order of the file, and so does a collapsed one if two records
have the same id.

The proof compares what two lists should show, not how they come to show it. `shows_unique` finds
that `Listing.Shows` leaves one list of blocks only, for all arrangements of the records together.

## Theorems

* `executions_perm`: Rearranged records give rearranged executions of each test.
* `precedes_perm`: The order of names does not depend on the order of the records.
* `precedes_asymm`: No two names stand before each other.
* `holds_unique`: The records of a collapsed block do not depend on it either.
* `shows_unique`: There is one list of blocks for all arrangements.
* `rows_perm`: The rows of the same blocks agree.
* `ofList_eq_of_perm`: Collapsed lists of rearranged records are the same.
-/

namespace RunReport

namespace Listing

open TestRecord

/-- Rearranged records give rearranged executions of each test. -/
theorem executions_perm (tests tests' : List TestRecord) (hperm : tests.Perm tests')
    (name : String) : (executions tests name).Perm (executions tests' name) :=
  hperm.filter _

/-- The order of names does not depend on the order of the records. -/
theorem precedes_perm (tests tests' : List TestRecord) (hperm : tests.Perm tests')
    (a b : String) (o : GroupOrder) : Precedes tests a b o ↔ Precedes tests' a b o := by
  cases o with
  | name => exact Iff.rfl
  | priority =>
      unfold Precedes
      rw [leastPriority_perm _ _ (executions_perm tests tests' hperm a),
        leastPriority_perm _ _ (executions_perm tests tests' hperm b)]

/-- No two names stand before each other. -/
theorem precedes_asymm (tests : List TestRecord) (a b : String) (o : GroupOrder)
    (hab : Precedes tests a b o) : ¬ Precedes tests b a o := by
  intro hba
  cases o with
  | name => exact String.lt_asymm hab hba
  | priority =>
      unfold Precedes at hab hba
      rcases hab with hab | ⟨heq, hab⟩
      · omega
      · rcases hba with hba | ⟨_, hba⟩
        · omega
        · exact String.lt_asymm hab hba

/-- Two collapsed blocks of one name have the same record, the better one of any two records. -/
theorem holds_unique (q : Query) (tests tests' : List TestRecord) (hperm : tests.Perm tests')
    (hids : (tests.map TestRecord.id).Nodup) (hcollapse : Report.CollapseInForce q)
    (b b' : Block) (hname : b.name = b'.name) (h : Holds q tests b) (h' : Holds q tests' b') :
    b = b' := by
  unfold Holds at h h'
  rw [if_pos hcollapse] at h h'
  rcases h with ⟨r, hb, hr⟩
  rcases h' with ⟨r', hb', hr'⟩
  -- Ids that are distinct in the whole file are distinct among the executions of one test.
  have hids' : ((executions tests b.name).map TestRecord.id).Nodup :=
    hids.sublist (List.filter_sublist.map TestRecord.id)
  rw [← hname] at hr'
  have heq : r = r' :=
    comesFirst_unique_of_perm r r' _ _ (executions_perm tests tests' hperm b.name) hids' hr hr'
  cases b
  cases b'
  simp only at hname hb hb'
  rw [hname, hb, hb', heq]

/-- There is one list of blocks that a collapsed list should show, for all arrangements of its
    records. Two such lists have the same blocks, and the order of the blocks is strict. -/
theorem shows_unique [PatternLibrary] (m : Manifest) (q : Query)
    (tests tests' : List TestRecord) (hperm : tests.Perm tests')
    (hids : (tests.map TestRecord.id).Nodup) (hcollapse : Report.CollapseInForce q)
    (blocks blocks' : List Block)
    (h : Shows m q tests blocks) (h' : Shows m q tests' blocks') : blocks = blocks' := by
  have hsame : ∀ b ∈ blocks, ∀ b' ∈ blocks', b.name = b'.name → b = b' :=
    fun b hb b' hb' hname =>
      holds_unique q tests tests' hperm hids hcollapse b b' hname (h.holds b hb) (h'.holds b' hb')
  have hnames : ∀ name, name ∈ blocks.map Block.name ↔ name ∈ blocks'.map Block.name := by
    intro name
    rw [h.mem_iff, h'.mem_iff, (hperm.map displayName).mem_iff]
  have hmem : ∀ b, b ∈ blocks ↔ b ∈ blocks' := by
    intro b
    constructor
    · intro hb
      rcases List.mem_map.mp ((hnames b.name).mp (List.mem_map_of_mem hb)) with ⟨b', hb', hname⟩
      rw [hsame b hb b' hb' hname.symm]
      exact hb'
    · intro hb
      rcases List.mem_map.mp ((hnames b.name).mpr (List.mem_map_of_mem hb)) with ⟨b', hb', hname⟩
      rw [← hsame b' hb' b hb hname]
      exact hb'
  -- The same blocks, none twice, can differ in their order only, and the names leave one order.
  have hblocks : blocks.Perm blocks' :=
    (List.perm_ext_iff_of_nodup h.nodup.of_map h'.nodup.of_map).mpr hmem
  refine List.Perm.eq_of_pairwise (fun a b _ _ hab hba => ?_) h.ascending ?_ hblocks
  · exact absurd hba (precedes_asymm tests a.name b.name _ hab)
  · exact h'.ascending.imp fun {a b} hab =>
      (precedes_perm tests tests' hperm a.name b.name _).mpr hab

/-- The rows of the same blocks agree. Apart from the blocks they tell only how many records a test
    has. -/
theorem rows_perm (m : Manifest) (q : Query) (tests tests' : List TestRecord)
    (hperm : tests.Perm tests') (blocks : List Block) :
    rows m q tests blocks = rows m q tests' blocks := by
  unfold rows
  refine List.flatMap_congr fun b _ => ?_
  congr 1
  funext place t
  unfold row
  rw [(executions_perm tests tests' hperm b.1.name).length_eq]

/-- Collapsed lists of rearranged records are the same to the last character, or fail with the same
    failure. -/
theorem ofList_eq_of_perm [PatternLibrary] [TemplateLibrary] (w w' : Workspace) (m : Manifest)
    (q : Query) (tests tests' : List TestRecord) (hload : Report.tests w m = .ok tests)
    (hload' : Report.tests w' m = .ok tests') (hperm : tests.Perm tests')
    (hids : (tests.map TestRecord.id).Nodup) (hcollapse : Report.CollapseInForce q) :
    Report.ofList w m q = Report.ofList w' m q := by
  cases hc : Report.criteria m q with
  | error r =>
      -- The criteria are refused before the records are looked at.
      unfold Report.ofList
      rw [hc]
      rfl
  | ok c =>
      have hblocks := shows_unique m q tests tests' hperm hids hcollapse _ _
        (testList_shows m q c tests hc) (testList_shows m q c tests' hc)
      rw [ofList_eq_report w m q c tests hload hc, ofList_eq_report w' m q c tests' hload' hc,
        ← hblocks, report, report, rows_perm m q tests tests' hperm]

/-- The same three records in two tables, collapsed. -/
theorem ofList_eq_of_perm_table :
    let w := tableSpace "id,display_name,status\n1,b,PASS\n2,a,FAIL\n3,b,ERROR\n"
    let w' := tableSpace "id,display_name,status\n3,b,ERROR\n2,a,FAIL\n1,b,PASS\n"
    let q := Query.read "?collapse=2&filter=a|b"
    let tests : List TestRecord := [
      { id := 1, displayName := "b", status := .pass },
      { id := 2, displayName := "a", status := .fail },
      { id := 3, displayName := "b", status := .error }]
    Report.tests w tableManifest = .ok tests ∧
      Report.tests w' tableManifest = .ok tests.reverse ∧
      tests.Perm tests.reverse ∧ (tests.map TestRecord.id).Nodup ∧
      Report.CollapseInForce q ∧
      Report.ofList w tableManifest q = Report.ofList w' tableManifest q := by
  intro w w' q tests
  have hload : Report.tests w tableManifest = .ok tests :=
    tests_tableSpace _ _ (by decide +kernel)
  have hload' : Report.tests w' tableManifest = .ok tests.reverse :=
    tests_tableSpace _ _ (by decide +kernel)
  have hperm : tests.Perm tests.reverse := (List.reverse_perm tests).symm
  have hids : (tests.map TestRecord.id).Nodup := by decide
  have hcollapse : Report.CollapseInForce q := by decide +kernel
  exact ⟨hload, hload', hperm, hids, hcollapse,
    ofList_eq_of_perm w w' tableManifest q tests tests.reverse hload hload' hperm hids hcollapse⟩

end Listing

end RunReport
