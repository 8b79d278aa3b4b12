import Mathlib
import RunReport.Proofs.JsonText
import RunReport.Proofs.RecordForms

/-!
# Files with One Record or Many

A file with one record holds the same as a file with the list of it.

That a record is no list, and that a list of records is read as such, is known of values. A file is
a text, and a text is put into a list by brackets around it. So the two are brought together: the
text in brackets has the list of the value, provided that there is room for one more level, and a
text is decoded as its value is.

All of it holds of any kind of records that are no lists of records, and that are the same whether
they are read from a text or from a value (`Source.oneOrMany_of_apart`).

## Main definitions

* `Workspace.HasJson`: A JSON file with a text.
* `Source.OneOrMany`: How files with one record and files with many are read.

## Theorems

* `Json.decodeText_iff`: A text is decoded as its value is.
* `Source.oneOrMany_of_apart`: What has to be known of a kind of records.
* `Source.records_one_or_many`: Test records and releases, by themselves and in lists.
* `Source.records_one_or_many_forms`: An object, an array of fields, and a list of both.
-/

namespace RunReport

open Json (Origin Doc Decoder)

/-- A text that has a value is decoded as its value is. -/
theorem Json.decodeText_iff {α : Type} {read : Origin → Decoder α}
    (hagree : Agree (read .text) (read .value)) {text : List UInt8} {v : Json}
    (h : Json.read text = .ok v) (x : α) :
    decodeText read text = .ok x ↔ decodeValue read v = .ok x := by
  have htext : decodeText read text = read .text (Doc.ofJson v) := by
    rw [decodeText, Doc.read_of_ok h]
    change (read .text (Doc.ofJson v) >>= _) = _
    cases read .text (Doc.ofJson v) with
    | error e => rfl
    | ok x => rfl
  rw [htext, decodeValue, ← toOption_eq_some, ← toOption_eq_some, hagree]

/-- A JSON file with a text. -/
structure Workspace.HasJson (w : Workspace) (path : String) (text : List UInt8) : Prop where
  format : RecordFormat.ofPath path = .ok .json
  text : w.read path = .ok text

namespace Source

/-- How files with one record and files with many are read, for a kind of records: how a record is
    decoded, how all records of a file are loaded, and how the first one is. -/
structure OneOrMany {α : Type} (read : Origin → Decoder α)
    (load : Workspace → String → Except Failure (List α))
    (first : Workspace → String → Except Failure (Option α)) : Prop where
  /-- A text is a record by itself exactly if its value is. -/
  alone : ∀ text v x, Json.read text = .ok v →
    (Json.decodeText read text = .ok x ↔ Json.decodeValue read v = .ok x)
  /-- A record is the only one of its file, and a file with the record in brackets is loaded as this
      file is. -/
  one : ∀ w path text v x, w.HasJson path text → Json.read text = .ok v →
    Json.decodeValue read v = .ok x →
    load w path = .ok [x] ∧ first w path = .ok (some x) ∧
      ∀ path', v.depth + 1 < Doc.fullRoom → w.HasJson path' (Doc.bracketed [text]) →
        load w path' = load w path
  /-- The records of an array are those of its file, in their order. -/
  many : ∀ w path text vs xs, w.HasJson path text → Json.read text = .ok (.array vs) →
    List.Forall₂ (fun v x => Json.decodeValue read v = .ok x) vs xs →
    load w path = .ok xs ∧ first w path = .ok xs.head?
  /-- The records whose texts stand in brackets are those of the file, in their order. -/
  bracketed : ∀ w path texts vs xs, w.HasJson path (Doc.bracketed texts) →
    List.Forall₂ (fun text v => Json.read text = .ok v) texts vs →
    (∀ v ∈ vs, v.depth + 1 < Doc.fullRoom) →
    List.Forall₂ (fun v x => Json.decodeValue read v = .ok x) vs xs →
    load w path = .ok xs ∧ first w path = .ok xs.head?
  /-- No array is both a list of records and a record. -/
  apart : ∀ vs xs x, Decoder.list (read .value) (Doc.ofJson (.array vs)) = .ok xs →
    Json.decodeValue read (.array vs) ≠ .ok x

/-- It is enough that records are no lists of records, and that it makes no difference where they
    come from. -/
theorem oneOrMany_of_apart {α : Type} {read : Origin → Decoder α}
    {load : Workspace → String → Except Failure (List α)}
    {first : Workspace → String → Except Failure (Option α)}
    (hagree : Json.Agree (read .text) (read .value))
    (hlist : ∀ d x, read .value d = .ok x → ∃ e, Decoder.list (read .value) d = .error e)
    (hload : ∀ w path, RecordFormat.ofPath path = .ok .json → load w path = ofJson read w path)
    (hfirst : ∀ w path, first w path = (load w path).map List.head?) :
    OneOrMany read load first := by
  -- What is said of files follows from what is said of their values.
  have hfile : ∀ w path text v xs, w.HasJson path text → Json.read text = .ok v →
      Json.oneOrMany read v = .ok xs →
      load w path = .ok xs ∧ first w path = .ok xs.head? := by
    intro w path text v xs hjson hvalue hxs
    have hloaded : load w path = .ok xs := by
      rw [hload w path hjson.format, ofJson_of_read read hjson.text hvalue, hxs]
      rfl
    refine ⟨hloaded, ?_⟩
    rw [hfirst, hloaded]
    rfl
  have hmany : ∀ w path text vs xs, w.HasJson path text → Json.read text = .ok (.array vs) →
      List.Forall₂ (fun v x => Json.decodeValue read v = .ok x) vs xs →
      load w path = .ok xs ∧ first w path = .ok xs.head? :=
    fun w path text vs xs hjson hvalue hvs =>
      hfile w path text _ xs hjson hvalue (Json.oneOrMany_of_items hvs)
  have hbracketed : ∀ w path texts vs xs, w.HasJson path (Doc.bracketed texts) →
      List.Forall₂ (fun text v => Json.read text = .ok v) texts vs →
      (∀ v ∈ vs, v.depth + 1 < Doc.fullRoom) →
      List.Forall₂ (fun v x => Json.decodeValue read v = .ok x) vs xs →
      load w path = .ok xs ∧ first w path = .ok xs.head? := by
    intro w path texts vs xs hjson htexts hdepth hvs
    have hvalue := Doc.read_bracketed htexts
    rw [if_pos hdepth] at hvalue
    exact hmany w path _ vs xs hjson hvalue hvs
  refine ⟨fun text v x h => Json.decodeText_iff hagree h x, ?_, hmany, hbracketed, ?_⟩
  · intro w path text v x hjson hvalue hx
    rcases hfile w path text v [x] hjson hvalue (Json.oneOrMany_of_record (hlist _ x hx) hx)
      with ⟨hloaded, hfirst⟩
    refine ⟨hloaded, hfirst, fun path' hdepth hjson' => ?_⟩
    have hdepth' : ∀ u ∈ [v], u.depth + 1 < Doc.fullRoom := by
      intro u hu
      rw [List.mem_singleton.mp hu]
      exact hdepth
    rw [hloaded]
    exact (hbracketed w path' [text] [v] [x] hjson' (.cons hvalue .nil) hdepth' (.cons hx .nil)).1
  · intro vs xs x hxs hx
    rcases hlist _ x hx with ⟨e, he⟩
    exact nomatch he.symm.trans hxs

/-- Test records and releases can be written by themselves or in a list. A file with one record,
    be it an object or an array of its fields, is loaded as the file with the record in brackets,
    and a file with records in brackets as the list of them in their order, of which the first is
    the first record of the file. No array is both a list of records and a record. -/
theorem records_one_or_many :
    OneOrMany TestRecord.decoder tests test ∧
      OneOrMany Release.decoder releases fun w path => (releases w path).map List.head? := by
  refine ⟨oneOrMany_of_apart (TestRecord.decoder_agree .text .value)
    (fun _ _ => TestRecord.list_of_decoder) ?_ fun _ _ => rfl,
    oneOrMany_of_apart (Release.decoder_agree .text .value)
    (fun _ _ => Release.list_of_decoder) ?_ fun _ _ => rfl⟩
  · intro w path h
    rw [tests, h]
    rfl
  · intro w path h
    rw [releases, jsonOnly, h]
    rfl

/-- A test record as an object, another one as an array of its fields, and a list of both; an empty
    list; and a release as an array, by itself and in brackets. -/
theorem records_one_or_many_forms :
    let object := Utf8.encode "\x7b\"display_name\":\"a\",\"id\":7\x7d".toList
    let fields := Utf8.encode " [8,\"b\"] ".toList
    let release := Utf8.encode "[\"r\",\"R\",\"\",\"retired\",\"2.1\",[[\"2.1.0\"]]]".toList
    let w : Workspace := { files := [("object.json", object), ("fields.json", fields),
      ("both.json", Doc.bracketed [object, fields]), ("none.json", Doc.bracketed []),
      ("release.json", release), ("releases.json", Doc.bracketed [release])] }
    let t : TestRecord := { id := 7, displayName := "a" }
    let u : TestRecord := { id := 8, displayName := "b" }
    let r : Release :=
      { id := "r", name := "R", status := .retired, version := "2.1"
        builds := [{ version := "2.1.0" }] }
    tests w "object.json" = .ok [t] ∧ tests w "fields.json" = .ok [u] ∧
      tests w "both.json" = .ok [t, u] ∧ test w "both.json" = .ok (some t) ∧
      test w "none.json" = .ok none ∧
      releases w "release.json" = .ok [r] ∧
      releases w "releases.json" = releases w "release.json" := by
  intro object fields release w t u r
  have hjson : ∀ path text, RecordFormat.ofPath path = .ok .json →
      w.contents? (Path.normal path) = some text → w.HasJson path text := by
    intro path text hformat htext
    refine ⟨hformat, ?_⟩
    rw [Workspace.read, htext]
  have hobject : Json.read object
      = .ok (.object [("display_name", .string "a"), ("id", .number (.natural 7))]) := by
    simp only [object]
    cbv
  have hfields : Json.read fields = .ok (.array [.number (.natural 8), .string "b"]) := by
    simp only [fields]
    cbv
  have hrelease : Json.read release = .ok (.array [.string "r", .string "R", .string "",
      .string "retired", .string "2.1", .array [.array [.string "2.1.0"]]]) := by
    simp only [release]
    cbv
  rcases records_one_or_many with ⟨htests, hreleases⟩
  have hboth := htests.bracketed w "both.json" [object, fields] _ [t, u]
    (hjson _ _ rfl (by decide +kernel)) (.cons hobject (.cons hfields .nil)) (by decide +kernel)
    (.cons rfl (.cons rfl .nil))
  have hnone := htests.bracketed w "none.json" [] [] [] (hjson _ _ rfl (by decide +kernel)) .nil
    (by decide) .nil
  have hretired := hreleases.one w "release.json" release _ r
    (hjson _ _ rfl (by decide +kernel)) hrelease rfl
  refine ⟨?_, ?_, hboth.1, hboth.2, hnone.2, hretired.1, ?_⟩
  · exact (htests.one w "object.json" object _ t (hjson _ _ rfl (by decide +kernel)) hobject rfl).1
  · exact (htests.one w "fields.json" fields _ u (hjson _ _ rfl (by decide +kernel)) hfields rfl).1
  · exact hretired.2.2 "releases.json" (by decide +kernel) (hjson _ _ rfl (by decide +kernel))

end Source

end RunReport
