import Mathlib
import RunReport.Proofs.CsvTable
import RunReport.Proofs.Listing
import RunReport.Proofs.RecordForms
import RunReport.Proofs.StatusText

/-!
# Statuses in Files of Records

One list of records in a table and in JSON, and the statuses they have.

Both files say of every record what its status is, by a text or by a code, and are regular apart
from that. What a record is without its status is told by a label put in the place of the status:
`TestRecord.ofCells?_status` and `TestRecord.decoder_status` say that what is put there changes the
status of the record and nothing else. For JSON this takes a walk over the members of an object,
which are checked in their order. Which of them are found to be missing or repeated does not depend
on the values, so the walk takes the same way for every status that can be read.

A JSON file gives all records with the statuses of their texts. A table does too if no cell is
mistaken for something else, and otherwise it gives no records at all.

## Main definitions

* `TestRecord.withStatus`: A record with another status.
* `Csv.Tabulates`: Bytes are a table of records with statuses that are given by texts.
* `Json.Lists`: A value is a list of the same records, or one of them.
* `Workspace.HasTable`, `Workspace.HasDocument`: A file with such a table or value.

## Theorems

* `Csv.Cells.cell?_status`, `TestRecord.ofCells?_status`: The status of a row.
* `Json.Fields.checkMembers_append`, `Json.Fields.checkMembers_congr`,
  `Json.Fields.checkItems_more`: Members and items are checked one after the other.
* `TestRecord.build_status`, `TestRecord.ofMembers_status`, `TestRecord.ofItems_status`,
  `TestRecord.decoder_status`: The status of a JSON record.
* `Source.ofCsv_of_tabulates`, `Source.ofJson_of_lists`: The records of a file.
* `Source.tests_status`: A table and a JSON file of the same records agree, but for mistaken cells.
* `Source.tests_truth`: They do not agree on a text that looks like a truth value.
-/

namespace RunReport

open Csv (Cells)
open Json (Doc Fields Field Decoder Decoded Origin)

/-- A record with another status. -/
def TestRecord.withStatus (t : TestRecord) (status : Status) : TestRecord :=
  { t with status }

/-! ### Rows -/

namespace Csv

/-- If no field has two cells, the cell of the status is where it is found. -/
theorem Cells.cell?_status (before after : Cells) (cell : String)
    (h : Cells.isDistinct TestRecord.fieldNames (before ++ ("status", cell) :: after)) :
    Cells.cell? (before ++ ("status", cell) :: after) "status" = some cell := by
  have hone := List.all_eq_true.mp h "status" (by decide)
  have hfree : before.filter (fun c => decide (c.1 = "status")) = [] := by
    rw [decide_eq_true_eq, List.filter_append, List.filter_cons_of_pos (by simp),
      List.length_append, List.length_cons] at hone
    exact List.length_eq_zero_iff.mp (by omega)
  have hnone : before.find? (fun c => decide (c.1 = "status")) = none := by
    rw [List.find?_eq_none]
    exact List.filter_eq_nil_iff.mp hfree
  rw [cell?, List.find?_append, hnone, Option.none_or, List.find?_cons_of_pos (by simp)]
  rfl

/-- The other cells do not depend on that of the status. -/
theorem Cells.cell?_of_ne (before after : Cells) (cell cell' name : String)
    (h : name ≠ "status") :
    Cells.cell? (before ++ ("status", cell) :: after) name
      = Cells.cell? (before ++ ("status", cell') :: after) name := by
  have hskip : ∀ cell : String, (("status", cell) :: after).find? (fun c => decide (c.1 = name))
      = after.find? (fun c => decide (c.1 = name)) :=
    fun _ => List.find?_cons_of_neg (by simp [h.symm])
  rw [cell?, cell?, List.find?_append, List.find?_append, hskip, hskip]

/-- Neither does it matter whether a field has two cells. -/
theorem Cells.isDistinct_status (names : List String) (before after : Cells)
    (cell cell' : String) :
    Cells.isDistinct names (before ++ ("status", cell) :: after)
      = Cells.isDistinct names (before ++ ("status", cell') :: after) := by
  have hlength : ∀ name cell,
      ((before ++ ("status", cell) :: after).filter fun c => decide (c.1 = name)).length
        = (((before ++ ("status", cell) :: after).map Prod.fst).filter
            fun n => decide (n = name)).length := by
    intro name cell
    rw [List.filter_map, List.length_map]
    rfl
  have hnames : ∀ cell, (before ++ ("status", cell) :: after).map Prod.fst
      = before.map Prod.fst ++ "status" :: after.map Prod.fst := fun cell => by
    rw [List.map_append, List.map_cons]
  simp only [isDistinct, hlength, hnames]

end Csv

/-- What is put in the place of a label gives the record its status, and takes nothing else from
    it. -/
theorem TestRecord.ofCells?_status (before after : Cells) (label cell : String) (t : TestRecord)
    (h : ofCells? (before ++ ("status", label) :: after) = some t) :
    ofCells? (before ++ ("status", cell) :: after) = (Status.ofCell? cell).map t.withStatus := by
  have hdistinct : Cells.isDistinct fieldNames (before ++ ("status", label) :: after) := by
    by_contra hno
    rw [ofCells?, if_neg hno] at h
    exact absurd h (by simp)
  have hdistinct' : Cells.isDistinct fieldNames (before ++ ("status", cell) :: after) := by
    rwa [Cells.isDistinct_status fieldNames before after cell label]
  have hcell' := Cells.cell?_status before after cell hdistinct'
  have hother := Cells.cell?_of_ne before after cell label
  rw [ofCells?, if_pos hdistinct] at h
  rw [ofCells?, if_pos hdistinct']
  have hrequired : ∀ (α : Type) (read : String → Option α) name, name ≠ "status" →
      Cells.required (before ++ ("status", cell) :: after) name read
        = Cells.required (before ++ ("status", label) :: after) name read := by
    intro α read name hname
    rw [Cells.required, Cells.required, hother name hname]
  have hdefault : ∀ (α : Type) (read : String → Option α) (x : α) name, name ≠ "status" →
      Cells.withDefault (before ++ ("status", cell) :: after) name read x
        = Cells.withDefault (before ++ ("status", label) :: after) name read x := by
    intro α read x name hname
    rw [Cells.withDefault, Cells.withDefault, hother name hname]
  simp only [hrequired _ _ "id" (by decide), hrequired _ _ "display_name" (by decide),
    hdefault _ _ _ "start_time" (by decide), hdefault _ _ _ "end_time" (by decide),
    hdefault _ _ _ "suite_id" (by decide), hdefault _ _ _ "group_name" (by decide),
    hdefault _ _ _ "message" (by decide)]
  -- All fields but the status are the same, and are read already.
  rcases Option.bind_eq_some_iff.mp h with ⟨id, hid, h⟩
  rcases Option.bind_eq_some_iff.mp h with ⟨name, hname, h⟩
  rcases Option.bind_eq_some_iff.mp h with ⟨start, hstart, h⟩
  rcases Option.bind_eq_some_iff.mp h with ⟨finish, hfinish, h⟩
  rcases Option.bind_eq_some_iff.mp h with ⟨status, -, h⟩
  rcases Option.bind_eq_some_iff.mp h with ⟨suite, hsuite, h⟩
  rcases Option.bind_eq_some_iff.mp h with ⟨group, hgroup, h⟩
  rcases Option.bind_eq_some_iff.mp h with ⟨message, hmessage, h⟩
  have hstatus : Cells.withDefault (before ++ ("status", cell) :: after) "status"
      Status.ofCell? .unknown = Status.ofCell? cell := by
    rw [Cells.withDefault, hcell']
  rw [hstatus, ← Option.some.inj h]
  rw [hid, hname, hstart, hfinish, hsuite, hgroup, hmessage]
  cases Status.ofCell? cell with
  | none => rfl
  | some st => rfl

/-! ### Members and items -/

namespace Json

theorem Doc.ofMembers_append (ms ms' : List (String × Json)) :
    ofMembers (ms ++ ms') = ofMembers ms ++ ofMembers ms' := by
  induction ms with
  | nil => rfl
  | cons m ms ih =>
      rcases m with ⟨name, v⟩
      rw [List.cons_append, ofMembers, ofMembers, ih, List.cons_append]

namespace Fields

/-- Where a document is found among those of two lists and one between them. -/
theorem lookup_append (front back : List (String × Doc)) (name : String) :
    lookup (front ++ back) name = (lookup front name).or (lookup back name) := by
  rw [lookup, lookup, lookup, List.find?_append]
  cases front.find? fun m => decide (m.1 = name) with
  | none => rfl
  | some m => rfl

/-- The document of a name that was not found before is found, and no other changes with it. -/
theorem lookup_put (front back : List (String × Doc)) (key : String) (d d' : Doc)
    (hfree : lookup front key = none) :
    lookup (front ++ (key, d) :: back) key = some d ∧
      ∀ name ≠ key, lookup (front ++ (key, d) :: back) name
        = lookup (front ++ (key, d') :: back) name := by
  refine ⟨?_, fun name hname => ?_⟩
  · rw [lookup_append, hfree, Option.none_or, lookup, List.find?_cons_of_pos (by simp)]
    rfl
  · have hskip : ∀ d : Doc, lookup ((key, d) :: back) name = lookup back name := fun _ => by
      rw [lookup, lookup, List.find?_cons_of_neg (by simp [hname.symm])]
    rw [lookup_append, lookup_append, hskip, hskip]

/-- Which names are found does not depend on the documents. -/
theorem isSome_lookup_put (front back : List (String × Doc)) (key name : String) (d d' : Doc) :
    (lookup (front ++ (key, d') :: back) name).isSome
      = (lookup (front ++ (key, d) :: back) name).isSome := by
  have hcons : ∀ d : Doc, (lookup ((key, d) :: back) name).isSome
      = (decide (key = name) || (lookup back name).isSome) := fun d => by
    by_cases hname : key = name
    · rw [lookup, List.find?_cons_of_pos (by simp [hname])]
      simp [hname]
    · rw [lookup, List.find?_cons_of_neg (by simp [hname])]
      simp [hname, lookup]
  rw [lookup_append, lookup_append, Option.isSome_or, Option.isSome_or, hcons, hcons]

/-- Members are checked one after the other. -/
theorem checkMembers_append (fields : List Field) (found : List (String × Doc))
    (ms ms' : List (Except Fault String × Doc)) :
    checkMembers fields found (ms ++ ms')
      = (checkMembers fields found ms).bind fun found => checkMembers fields found ms' := by
  induction ms generalizing found with
  | nil => rfl
  | cons m ms ih =>
      rcases m with ⟨⟨f⟩ | ⟨key⟩, d⟩
      · rfl
      · simp only [List.cons_append, checkMembers]
        cases fields.find? fun f => decide (f.name = key) with
        | none =>
            cases d.passed with
            | some f => rfl
            -- A name of no field is passed over, and what was found stays.
            | none => exact ih found
        | some field =>
            simp only
            split
            · rfl
            · cases field.check d with
              | error e => rfl
              | ok u => exact ih _

/-- How the check of members goes on depends on the names that were found before, and not on their
    documents. -/
theorem checkMembers_congr (fields : List Field) (found found' r : List (String × Doc))
    (ms : List (Except Fault String × Doc))
    (hfound : ∀ name, (lookup found' name).isSome = (lookup found name).isSome)
    (h : checkMembers fields found ms = .ok r) :
    ∃ more, r = found ++ more ∧ checkMembers fields found' ms = .ok (found' ++ more) := by
  induction ms generalizing found found' with
  | nil =>
      rw [checkMembers, Except.ok.injEq] at h
      exact ⟨[], by rw [List.append_nil, h], by rw [List.append_nil, checkMembers]⟩
  | cons m ms ih =>
      rcases m with ⟨⟨f⟩ | ⟨key⟩, d⟩
      · exact absurd h (by simp [checkMembers])
      · rw [checkMembers] at h ⊢
        cases hfield : fields.find? fun f => decide (f.name = key) with
        | none =>
            rw [hfield] at h
            cases hd : d.passed with
            | some f => exact absurd h (by simp [hd])
            | none =>
                simp only [hd] at h ⊢
                exact ih found found' hfound h
        | some field =>
            rw [hfield] at h
            -- What was found decides only which names are taken, and both took the same.
            simp only [hfound key] at h ⊢
            split at h
            · exact absurd h (by simp)
            · next hfree =>
                rw [if_neg hfree]
                cases hcheck : field.check d with
                | error e => exact absurd (hcheck ▸ h) (by simp [bind, Except.bind])
                | ok u =>
                    rw [hcheck] at h
                    have hfound' : ∀ name, (lookup (found' ++ [(key, d)]) name).isSome
                        = (lookup (found ++ [(key, d)]) name).isSome := fun name => by
                      rw [lookup_append, lookup_append, Option.isSome_or, Option.isSome_or,
                        hfound name]
                    rcases ih _ _ hfound' h with ⟨more, rfl, hmore⟩
                    refine ⟨(key, d) :: more, by simp, ?_⟩
                    change checkMembers fields (found' ++ [(key, d)]) ms = _
                    rw [hmore, List.append_assoc]
                    rfl

/-- The items that are left of a record are checked whatever was found before. -/
theorem checkItems_more (origin : Origin) (fault : Option Fault) (fields : List Field)
    (ds : List Doc) (found r : List (String × Doc))
    (h : checkItems origin fault found fields ds = .ok r) :
    ∃ more, r = found ++ more ∧
      ∀ found', checkItems origin fault found' fields ds = .ok (found' ++ more) := by
  induction ds generalizing fields found with
  | nil =>
      -- At the end only the fields that are left count, never what was found.
      have hend : ∀ found', checkItems origin fault found' fields []
          = (Decoder.close fault).bind fun _ =>
            if fields.any (·.required) then .error (.shape .other) else .ok found' := by
        intro found'
        cases fields <;> rfl
      rw [hend] at h
      simp only [hend]
      cases hclose : Decoder.close fault with
      | error e => exact absurd (hclose ▸ h) (by simp [Except.bind])
      | ok u =>
          rw [hclose] at h
          simp only [Except.bind] at h ⊢
          split at h
          · exact absurd h (by simp)
          · next hrequired =>
              rw [Except.ok.injEq] at h
              refine ⟨[], by rw [List.append_nil, h], fun found' => ?_⟩
              rw [if_neg hrequired, List.append_nil]
  | cons d ds ih =>
      cases fields with
      | nil => cases origin <;> exact absurd h (by simp [checkItems])
      | cons field fields =>
          simp only [checkItems] at h ⊢
          cases hcheck : field.check d with
          | error e => exact absurd (hcheck ▸ h) (by simp [bind, Except.bind])
          | ok u =>
              rw [hcheck] at h
              rcases ih fields _ h with ⟨more, rfl, hmore⟩
              refine ⟨(field.name, d) :: more, by simp, fun found' => ?_⟩
              -- The induction starts behind this item, so it is put at the end of what was found.
              change checkItems origin fault (found' ++ [(field.name, d)]) fields ds = _
              rw [hmore, List.append_assoc]
              rfl

/-- Items are checked one after the other, each as the field in its place. -/
theorem checkItems_append (origin : Origin) (fault : Option Fault) (fields fields' : List Field)
    (ds ds' : List Doc) (found r : List (String × Doc)) (hlength : ds.length = fields.length)
    (h : checkItems origin fault found (fields ++ fields') (ds ++ ds') = .ok r) :
    ∃ front, front.map Prod.fst = fields.map Field.name ∧
      ∀ ds', checkItems origin fault found (fields ++ fields') (ds ++ ds')
        = checkItems origin fault (found ++ front) fields' ds' := by
  induction fields generalizing ds found with
  | nil =>
      -- Without fields in front there are no items in front either.
      rw [List.length_nil, List.length_eq_zero_iff] at hlength
      subst hlength
      exact ⟨[], rfl, fun ds' => by simp⟩
  | cons field fields ih =>
      cases ds with
      | nil => exact absurd hlength (by simp)
      | cons d ds =>
          simp only [List.cons_append, checkItems] at h ⊢
          cases hcheck : field.check d with
          | error e => exact absurd (hcheck ▸ h) (by simp [bind, Except.bind])
          | ok u =>
              rw [hcheck] at h
              rcases ih ds _ (Nat.succ.inj hlength) h with ⟨front, hnames, hfront⟩
              refine ⟨(field.name, d) :: front, by rw [List.map_cons, List.map_cons, hnames],
                fun ds' => ?_⟩
              change checkItems origin fault (found ++ [(field.name, d)]) _ _ = _
              rw [hfront, List.append_assoc]
              rfl

/-- A record is there if its other fields are and one more is. -/
theorem build_and {α β : Type} (f : Fields (α → β)) (field : Field) (read : Option Doc → Decoded α)
    (docs : String → Option Doc) (y : β) :
    (f.and field read).build docs = .ok y ↔
      ∃ g x, f.build docs = .ok g ∧ read (docs field.name) = .ok x ∧ g x = y := by
  change (f.build docs).bind (fun g => (read (docs field.name)).bind fun x => .ok (g x)) = _ ↔ _
  cases f.build docs with
  | error e => simp [Except.bind]
  | ok g =>
      cases read (docs field.name) with
      | error e => simp [Except.bind]
      | ok x => simp [Except.bind]

end Fields

end Json

/-! ### JSON records -/

namespace TestRecord

/-- A record is built from the documents of its fields, so that another document of the status
    gives the record another status. -/
theorem build_status (docs docs' : String → Option Doc) (d : Doc) (t : TestRecord)
    (status : Status) (h : fields.build docs = .ok t)
    (hother : ∀ name ≠ "status", docs' name = docs name) (hdoc : docs' "status" = some d)
    (hstatus : Status.decoder d = .ok status) : fields.build docs' = .ok (t.withStatus status) := by
  unfold fields Fields.required Fields.optional at h ⊢
  rcases (Fields.build_and _ _ _ _ _).mp h with ⟨g₈, message, h₈, hmessage, rfl⟩
  rcases (Fields.build_and _ _ _ _ _).mp h₈ with ⟨g₇, group, h₇, hgroup, rfl⟩
  rcases (Fields.build_and _ _ _ _ _).mp h₇ with ⟨g₆, suite, h₆, hsuite, rfl⟩
  rcases (Fields.build_and _ _ _ _ _).mp h₆ with ⟨g₅, old, h₅, -, rfl⟩
  rcases (Fields.build_and _ _ _ _ _).mp h₅ with ⟨g₄, finish, h₄, hfinish, rfl⟩
  rcases (Fields.build_and _ _ _ _ _).mp h₄ with ⟨g₃, start, h₃, hstart, rfl⟩
  rcases (Fields.build_and _ _ _ _ _).mp h₃ with ⟨g₂, name, h₂, hname, rfl⟩
  rcases (Fields.build_and _ _ _ _ _).mp h₂ with ⟨g₁, id, h₁, hid, rfl⟩
  rw [Fields.pure, Except.ok.injEq] at h₁
  subst h₁
  -- The columns are read one by one, and only `status` is looked up in a document that changed.
  rw [← hother "message" (by decide)] at hmessage
  rw [← hother "group_name" (by decide)] at hgroup
  rw [← hother "suite_id" (by decide)] at hsuite
  rw [← hother "end_time" (by decide)] at hfinish
  rw [← hother "start_time" (by decide)] at hstart
  rw [← hother "display_name" (by decide)] at hname
  rw [← hother "id" (by decide)] at hid
  refine (Fields.build_and _ _ _ _ _).mpr ⟨_, message, ?_, hmessage, rfl⟩
  refine (Fields.build_and _ _ _ _ _).mpr ⟨_, group, ?_, hgroup, rfl⟩
  refine (Fields.build_and _ _ _ _ _).mpr ⟨_, suite, ?_, hsuite, rfl⟩
  refine (Fields.build_and _ _ _ _ _).mpr ⟨_, status, ?_, ?_, rfl⟩
  · refine (Fields.build_and _ _ _ _ _).mpr ⟨_, finish, ?_, hfinish, rfl⟩
    refine (Fields.build_and _ _ _ _ _).mpr ⟨_, start, ?_, hstart, rfl⟩
    refine (Fields.build_and _ _ _ _ _).mpr ⟨_, name, ?_, hname, rfl⟩
    exact (Fields.build_and _ _ _ _ _).mpr ⟨_, id, rfl, hid, rfl⟩
  · rw [hdoc]
    exact hstatus

/-- The field of the status. -/
theorem find?_status : fields.fields.find? (fun f => decide (f.name = "status"))
    = some ⟨"status", false, fun d => (Status.decoder d).map fun _ => ()⟩ := by
  unfold fields Fields.required Fields.optional Fields.and Fields.pure
  simp

/-- Another document of the status in the place where it was found. -/
theorem build_put (front back : List (String × Doc)) (d d' : Doc) (t : TestRecord)
    (status : Status) (hfree : Fields.lookup front "status" = none)
    (h : fields.build (Fields.lookup (front ++ ("status", d) :: back)) = .ok t)
    (hstatus : Status.decoder d' = .ok status) :
    fields.build (Fields.lookup (front ++ ("status", d') :: back)) = .ok (t.withStatus status) := by
  rcases Fields.lookup_put front back "status" d' d hfree with ⟨hdoc, hother⟩
  exact build_status _ _ d' t status h hother hdoc hstatus

/-- Another status that can be read among the members of an object. The members before it are
    checked as they were, and those after it find the same names. -/
theorem checkMembers_status (before after : List (Except Json.Fault String × Doc)) (d d' : Doc)
    (r : List (String × Doc)) (status : Status)
    (h : Fields.checkMembers fields.fields [] (before ++ (.ok "status", d) :: after) = .ok r)
    (hstatus : Status.decoder d' = .ok status) :
    ∃ front back, r = front ++ ("status", d) :: back ∧ Fields.lookup front "status" = none ∧
      Fields.checkMembers fields.fields [] (before ++ (.ok "status", d') :: after)
        = .ok (front ++ ("status", d') :: back) := by
  rw [Fields.checkMembers_append] at h ⊢
  cases hfront : Fields.checkMembers fields.fields [] before with
  | error e => exact absurd (hfront ▸ h) (by simp [Except.bind])
  | ok front =>
      simp only [hfront, Except.bind, Fields.checkMembers, find?_status] at h ⊢
      cases hfree : Fields.lookup front "status" with
      | some x => exact absurd h (by simp [hfree])
      | none =>
          simp only [hfree, Option.isSome_none, Bool.false_eq_true, if_false, hstatus] at h ⊢
          cases hold : Status.decoder d with
          | error e => exact absurd (hold ▸ h) (by simp [Except.map, bind, Except.bind])
          | ok old =>
              rw [hold] at h
              -- The members behind the status ask only which names were found, not for their
              -- documents.
              rcases Fields.checkMembers_congr _ _ (front ++ [("status", d')]) r after
                (fun name => Fields.isSome_lookup_put front [] "status" name d d') h with
                ⟨back, rfl, hback⟩
              refine ⟨front, back, by simp, hfree, ?_⟩
              change Fields.checkMembers _ (front ++ [("status", d')]) after = _
              rw [hback, List.append_assoc]
              rfl

/-- The status of a record that is an object. -/
theorem ofMembers_status (before after : List (Except Json.Fault String × Doc)) (d d' : Doc)
    (fault : Option Json.Fault) (t : TestRecord) (status : Status)
    (h : fields.ofMembers (before ++ (.ok "status", d) :: after) fault = .ok t)
    (hstatus : Status.decoder d' = .ok status) :
    fields.ofMembers (before ++ (.ok "status", d') :: after) fault = .ok (t.withStatus status) := by
  unfold Fields.ofMembers at h ⊢
  cases hfound : Fields.checkMembers fields.fields [] (before ++ (.ok "status", d) :: after) with
  | error e => exact absurd (hfound ▸ h) (by simp [bind, Except.bind])
  | ok r =>
      rcases checkMembers_status before after d d' r status hfound hstatus with
        ⟨front, back, rfl, hfree, hfound'⟩
      rw [hfound] at h
      rw [hfound']
      cases hclose : Decoder.close fault with
      | error e => exact absurd (hclose ▸ h) (by simp [bind, Except.bind])
      | ok u =>
          -- The required fields are looked for by name, and the names are the same.
          have hrequired : Fields.checkRequired fields.fields (front ++ ("status", d') :: back)
              = Fields.checkRequired fields.fields (front ++ ("status", d) :: back) := by
            have hnames : ∀ name, (Fields.lookup (front ++ ("status", d') :: back) name).isNone
                = (Fields.lookup (front ++ ("status", d) :: back) name).isNone := fun name => by
              rw [← Option.not_isSome, ← Option.not_isSome,
                Fields.isSome_lookup_put front back "status" name d d']
            simp only [Fields.checkRequired, hnames]
          rw [hclose] at h
          change (Fields.checkRequired _ _).bind _ = _ at h
          change (Fields.checkRequired _ _).bind _ = _
          rw [hrequired]
          cases hcheck : Fields.checkRequired fields.fields (front ++ ("status", d) :: back) with
          | error e => exact absurd (hcheck ▸ h) (by simp [Except.bind])
          | ok u =>
              rw [hcheck] at h
              exact build_put front back d d' t status hfree h hstatus

/-- The status of a record that is an array, where it is the fifth item. -/
theorem ofItems_status (origin : Origin) (before after : List Doc) (d d' : Doc)
    (fault : Option Json.Fault) (t : TestRecord) (status : Status) (hplace : before.length = 4)
    (h : fields.ofItems origin (before ++ d :: after) fault = .ok t)
    (hstatus : Status.decoder d' = .ok status) :
    fields.ofItems origin (before ++ d' :: after) fault = .ok (t.withStatus status) := by
  -- Four fields come before the status.
  have hsplit : fields.fields = fields.fields.take 4
      ++ ⟨"status", false, fun d => (Status.decoder d).map fun _ => ()⟩ :: fields.fields.drop 5 :=
    rfl
  have hnames : (fields.fields.take 4).map Field.name
      = ["id", "display_name", "start_time", "end_time"] := rfl
  unfold Fields.ofItems at h ⊢
  cases hfound : Fields.checkItems origin fault [] fields.fields (before ++ d :: after) with
  | error e => exact absurd (hfound ▸ h) (by simp [bind, Except.bind])
  | ok r =>
      rw [hfound] at h
      rw [hsplit] at hfound ⊢
      rcases Fields.checkItems_append origin fault (fields.fields.take 4) _ before (d :: after) [] r
        hplace hfound with ⟨front, hfront, hcheck⟩
      have hfree : Fields.lookup front "status" = none := by
        rw [Fields.lookup, Option.map_eq_none_iff, List.find?_eq_none]
        intro m hm heq
        have hname := List.mem_map_of_mem (f := Prod.fst) hm
        rw [hfront, hnames, of_decide_eq_true heq] at hname
        exact absurd hname (by decide)
      rw [hcheck, List.nil_append, Fields.checkItems] at hfound
      rw [hcheck, List.nil_append, Fields.checkItems]
      cases hold : Status.decoder d with
      | error e => exact absurd hfound (by simp [hold, Except.map, bind, Except.bind])
      | ok old =>
          simp only [hold, hstatus] at hfound ⊢
          rcases Fields.checkItems_more origin fault _ after _ r hfound with ⟨back, rfl, hback⟩
          rw [List.append_assoc] at h
          change (Fields.checkItems origin fault (front ++ [("status", d')]) _ after).bind _ = _
          rw [hback, List.append_assoc]
          exact build_put front back d d' t status hfree h hstatus

/-- A place for the status of a record: a member of an object, or the fifth item of an array. -/
def IsPlace (place : Json → Json) : Prop :=
  (∃ before after, place = fun v => .object (before ++ ("status", v) :: after)) ∨
    ∃ before after, before.length = 4 ∧ place = fun v => .array (before ++ v :: after)

/-- What is put in the place of a label gives the record its status, and takes nothing else from
    it. -/
theorem decoder_status (origin : Origin) (place : Json → Json) (hplace : IsPlace place)
    (label v : Json) (t : TestRecord) (status : Status)
    (h : decoder origin (Doc.ofJson (place label)) = .ok t)
    (hstatus : Status.decoder (Doc.ofJson v) = .ok status) :
    decoder origin (Doc.ofJson (place v)) = .ok (t.withStatus status) := by
  rcases hplace with ⟨before, after, rfl⟩ | ⟨before, after, hlength, rfl⟩
  · have hmembers : ∀ v, decoder origin (Doc.ofJson (.object (before ++ ("status", v) :: after)))
        = fields.ofMembers (Doc.ofMembers before ++ (.ok "status", Doc.ofJson v) ::
            Doc.ofMembers after) none := by
      intro v
      rw [Doc.ofJson, Doc.ofMembers_append, Doc.ofMembers]
      rfl
    rw [hmembers] at h ⊢
    exact ofMembers_status _ _ _ _ none t status h hstatus
  · have hitems : ∀ v, decoder origin (Doc.ofJson (.array (before ++ v :: after)))
        = fields.ofItems origin (before.map Doc.ofJson ++ Doc.ofJson v :: after.map Doc.ofJson)
            none := by
      intro v
      -- The documents of an array are read one by one, so the status is still at its place.
      have hmap : ∀ vs : List Json, Doc.ofItems vs = vs.map Doc.ofJson := fun vs => by
        induction vs with
        | nil => rfl
        | cons v vs ih => rw [Doc.ofItems, ih, List.map_cons]
      rw [Doc.ofJson, hmap, List.map_append, List.map_cons]
      rfl
    rw [hitems] at h ⊢
    exact ofItems_status origin _ _ _ _ none t status (by rw [List.length_map, hlength]) h hstatus

end TestRecord

/-- A value that says what a text says is read as the status of the text. -/
theorem Status.decoder_of_saidBy (s : String) (v : Json) (h : SaidBy s v) :
    decoder (Doc.ofJson v) = .ok (ofText s) := by
  have hjson := ofJson?_of_saidBy s v h
  have hstrict : Decoder.json (Doc.fullRoom - 1) (Doc.ofJson v) = .ok v := by
    rcases h with rfl | ⟨n, -, -, hv⟩
    · rfl
    · cases v with
      | number x => rfl
      | _ => exact absurd hv (by simp [Json.int?])
  rw [decoder, hstrict]
  simp only [bind, Except.bind, hjson]

/-! ### Files -/

/-- Bytes are a table of records with statuses that are given by texts. Of each record the text is
    known, and what the record would be with a label in its place. -/
def Csv.Tabulates (bytes : List UInt8) (entries : List (String × TestRecord)) : Prop :=
  ∃ before after table, Csv.Writes bytes (before ++ "status" :: after) table ∧
    List.Forall₂ (fun row e => ∃ front back, row = front ++ e.1 :: back ∧
      front.length = before.length ∧
      TestRecord.ofCells?
        ((before ++ "status" :: after).zip (front ++ Status.pass.label :: back)) = some e.2)
      table entries

/-- A value is a record with a status that says what a text says. -/
def Json.IsRecord (v : Json) (e : String × TestRecord) : Prop :=
  ∃ place said, TestRecord.IsPlace place ∧ Status.SaidBy e.1 said ∧ v = place said ∧
    TestRecord.decoder .value (Doc.ofJson (place (.string Status.pass.label))) = .ok e.2

/-- A value is a list of such records, or the only one of them. -/
def Json.Lists (v : Json) (entries : List (String × TestRecord)) : Prop :=
  ∃ items, List.Forall₂ Json.IsRecord items entries ∧ (v = .array items ∨ items = [v])

/-- A file is a table of records. -/
structure Workspace.HasTable (w : Workspace) (path : String)
    (entries : List (String × TestRecord)) : Prop where
  format : RecordFormat.ofPath path = .ok .csv
  tabulates : ∃ bytes, w.read path = .ok bytes ∧ Csv.Tabulates bytes entries

/-- A file is a JSON document with records. -/
structure Workspace.HasDocument (w : Workspace) (path : String)
    (entries : List (String × TestRecord)) : Prop where
  format : RecordFormat.ofPath path = .ok .json
  lists : ∃ bytes v, w.read path = .ok bytes ∧ Json.read bytes = .ok v ∧ v.Lists entries

theorem Workspace.read_of_contents (w : Workspace) (path : String) (bytes : List UInt8)
    (h : w.contents? (Path.normal path) = some bytes) : w.read path = .ok bytes := by
  rw [read, h]

namespace Source

/-- The records of entries: each with the status of its text. -/
def recorded (entries : List (String × TestRecord)) : List TestRecord :=
  entries.map fun e => e.2.withStatus (Status.ofText e.1)

/-- The records of a table: all of them have the statuses of their texts, or there are none. -/
theorem ofCsv_of_tabulates (w : Workspace) (path : String) (bytes : List UInt8)
    (entries : List (String × TestRecord)) (hread : w.read path = .ok bytes)
    (h : Csv.Tabulates bytes entries) :
    (ofCsv w path).toOption
      = if ∀ e ∈ entries, ¬Status.IsMistaken e.1 then some (recorded entries) else none := by
  rcases h with ⟨before, after, table, hwrites, hrows⟩
  have hrecords : (ofCsv w path).toOption
      = table.mapM fun row => TestRecord.ofCells? ((before ++ "status" :: after).zip row) := by
    rw [← Csv.records_of_writes TestRecord.fieldNames _ _ bytes table hwrites]
    unfold ofCsv
    rw [hread]
    cases h : Csv.records TestRecord.fieldNames TestRecord.ofCells? bytes with
    | error f => simp only [h, Except.mapError, Except.toOption]
    | ok tests => simp only [h, Except.mapError, Except.toOption]
  rw [hrecords]
  -- The induction is on the rows alone, and what is said of the whole text would be in its way.
  clear hrecords hwrites
  induction hrows with
  | nil => simp [recorded]
  | @cons row e table entries hrow hrows ih =>
      rcases hrow with ⟨front, back, rfl, hfront, hregular⟩
      rw [List.zip_append hfront.symm, List.zip_cons_cons] at hregular
      have hrow := TestRecord.ofCells?_status _ _ _ e.1 e.2 hregular
      rw [List.mapM_cons, ih, List.zip_append hfront.symm, List.zip_cons_cons, hrow,
        Status.ofCell?_eq]
      have hcons := List.forall_mem_cons (p := fun e => ¬Status.IsMistaken e.1) (a := e)
        (l := entries)
      by_cases hmistaken : Status.IsMistaken e.1
      · have hsome : ¬∀ e' ∈ e :: entries, ¬Status.IsMistaken e'.1 :=
          fun h => (hcons.mp h).1 hmistaken
        rw [if_pos hmistaken, if_neg hsome]
        rfl
      · rw [if_neg hmistaken]
        by_cases hall : ∀ e ∈ entries, ¬Status.IsMistaken e.1
        · rw [if_pos hall, if_pos (hcons.mpr ⟨hmistaken, hall⟩)]
          rfl
        · rw [if_neg hall, if_neg fun h => hall (hcons.mp h).2]
          rfl

/-- The records of a JSON file: all of them have the statuses of their texts. -/
theorem ofJson_of_lists (w : Workspace) (path : String) (bytes : List UInt8) (v : Json)
    (entries : List (String × TestRecord)) (hread : w.read path = .ok bytes)
    (hvalue : Json.read bytes = .ok v) (h : v.Lists entries) :
    ofJson TestRecord.decoder w path = .ok (recorded entries) := by
  -- A record is one with a regular status, in which the status was changed to what it says.
  have hrecord : ∀ v e, Json.IsRecord v e → Json.decodeValue TestRecord.decoder v
      = .ok (e.2.withStatus (Status.ofText e.1)) := by
    rintro v e ⟨place, said, hplace, hsaid, rfl, hregular⟩
    exact TestRecord.decoder_status .value place hplace _ said e.2 _ hregular
      (Status.decoder_of_saidBy e.1 said hsaid)
  have hmany : Json.oneOrMany TestRecord.decoder v = .ok (recorded entries) := by
    rcases h with ⟨items, hitems, rfl | rfl⟩
    · refine Json.oneOrMany_of_items ?_
      rw [recorded, List.forall₂_map_right_iff]
      exact hitems.imp hrecord
    · -- A record that stands alone is the only item.
      cases hitems with
      | @cons _ e _ _ hitem hnil =>
          cases hnil
          exact Json.oneOrMany_of_record (TestRecord.list_of_decoder (hrecord v e hitem))
            (hrecord v e hitem)
  rw [ofJson_of_read TestRecord.decoder hread hvalue, hmany]
  rfl

/-- A table and a JSON file of the same records give the same statuses. In JSON a text stands for
    its status, as do a text and a number for the status of a code that they write. In a table the
    same texts do, unless one of them is taken for something that is no status, in which case no
    record of the table is read. No writing of a code is. -/
theorem tests_status (w : Workspace) (table document : String)
    (entries : List (String × TestRecord)) (htable : w.HasTable table entries)
    (hdocument : w.HasDocument document entries) :
    tests w document = .ok (recorded entries) ∧
      ((∀ e ∈ entries, ¬Status.IsMistaken e.1) → tests w table = .ok (recorded entries)) ∧
      ((∃ e ∈ entries, Status.IsMistaken e.1) → ∃ f, tests w table = .error f) ∧
      ∀ e ∈ entries, ∀ n, Status.IsCode n → Numeral.Writes n e.1.toList →
        ¬Status.IsMistaken e.1 ∧ Status.ofText e.1 = Status.ofCode n := by
  rcases htable with ⟨hcsv, bytes, hread, htabulates⟩
  rcases hdocument with ⟨hjson, bytes', v, hread', hvalue, hlists⟩
  have hrows : tests w table = ofCsv w table := by
    rw [tests, hcsv]
    rfl
  have hdocs : tests w document = ofJson TestRecord.decoder w document := by
    rw [tests, hjson]
    rfl
  -- Which error a table gives is left open, so it is compared as an option.
  have hoption := ofCsv_of_tabulates w table bytes entries hread htabulates
  rw [hrows, hdocs]
  refine ⟨ofJson_of_lists w document bytes' v entries hread' hvalue hlists, ?_, ?_, ?_⟩
  · intro hsound
    rw [if_pos hsound] at hoption
    cases hrecords : ofCsv w table with
    | error f => exact absurd hoption (by simp [hrecords, Except.toOption])
    | ok ts =>
        rw [hrecords, Except.toOption, Option.some.injEq] at hoption
        rw [hoption]
  · rintro ⟨e, he, hmistaken⟩
    rw [if_neg fun hsound => hsound e he hmistaken] at hoption
    cases hrecords : ofCsv w table with
    | error f => exact ⟨f, rfl⟩
    | ok ts => exact absurd hoption (by simp [hrecords, Except.toOption])
  · exact fun e _ n hcode hwrites => ⟨Status.not_isMistaken_of_writes n e.1 hcode hwrites,
      Status.ofText_of_writes n e.1 hcode hwrites⟩

/-- A code with blanks, a sign and a zero, for which the JSON file has a number. -/
theorem tests_status_table :
    let names := ["id", "display_name", "status"]
    let table := Csv.written ([names, ["1", "a", " +07 "]].map Csv.encoded)
    let document := Utf8.encode "[\x7b\"id\":1,\"display_name\":\"a\",\"status\":7\x7d]".toList
    let w : Workspace := { files := [("tests.csv", table), ("tests.json", document)] }
    let t : TestRecord := { id := 1, displayName := "a", status := .pass }
    let entries := [(" +07 ", t)]
    w.HasTable "tests.csv" entries ∧ w.HasDocument "tests.json" entries ∧
      tests w "tests.json" = .ok [t.withStatus .blacklist] ∧
      tests w "tests.csv" = .ok [t.withStatus .blacklist] := by
  intro names table document w t entries
  have htable : w.HasTable "tests.csv" entries := by
    have hcontents : w.contents? (Path.normal "tests.csv") = some table := by decide +kernel
    have hwrites := Csv.writes_written names [["1", "a", " +07 "]] (by decide) (by decide)
    refine ⟨rfl, table, w.read_of_contents _ _ hcontents, ["id", "display_name"], [], _, hwrites,
      ?_⟩
    exact .cons ⟨["1", "a"], [], rfl, rfl, by decide +kernel⟩ .nil
  have hdocument : w.HasDocument "tests.json" entries := by
    have hcontents : w.contents? (Path.normal "tests.json") = some document := by decide +kernel
    have hvalue : Json.read document = .ok (.array [.object [("id", .number (.natural 1)),
        ("display_name", .string "a"), ("status", .number (.natural 7))]]) := by
      simp only [document]
      cbv
    have hspace : ∀ c ∈ [' '], Text.isBlank c = true := by
      intro c hc
      rw [List.mem_singleton.mp hc]
      rfl
    have hcode : Status.SaidBy " +07 " (.number (.natural 7)) :=
      .inr ⟨7, ⟨by decide, by decide⟩, ⟨[' '], ['+'], 1, [' '], hspace, hspace,
        .inr ⟨.inr rfl, by decide⟩, by decide +kernel⟩, rfl⟩
    refine ⟨rfl, document, _, w.read_of_contents _ _ hcontents, hvalue, _, ?_, .inl rfl⟩
    exact .cons ⟨_, _, .inl ⟨[_, _], [], rfl⟩, hcode, rfl, by rfl⟩ .nil
  have hrecorded : recorded entries = [t.withStatus .blacklist] := by decide +kernel
  have hsound : ∀ e ∈ entries, ¬Status.IsMistaken e.1 := by decide +kernel
  rcases tests_status w "tests.csv" "tests.json" entries htable hdocument with ⟨hjson, hcsv, -, -⟩
  rw [hrecorded] at hjson hcsv
  exact ⟨htable, hdocument, hjson, hcsv hsound⟩

/-- A text that looks like a truth value is no status in a table, so that the table cannot be
    read. In JSON it is a status like any unknown one. -/
theorem tests_truth :
    let w : Workspace := { files := [
      ("tests.csv", Utf8.encode "id,display_name,status\n1,a,true\n".toList),
      ("tests.json",
        Utf8.encode "[\x7b\"id\":1,\"display_name\":\"a\",\"status\":\"true\"\x7d]".toList)] }
    (tests w "tests.csv").toOption = none ∧
      (tests w "tests.json").toOption
        = some [{ id := 1, displayName := "a", status := .unknown }] := by
  decide +kernel

end Source

end RunReport
