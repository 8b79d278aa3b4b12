import Mathlib.Data.List.Forall2
import RunReport.Store.Source

/-!
# One Record or a List of Records

An array can be a list of records or one record that is written as an array of its fields.

The reader of a file tries the list first, so a record would be lost if it could be taken for a
list. It cannot: the first field of a record must be there, and is a number or a string, while the
first item of a list is a record and thus an array or an object (`Fields.list_of_record`). An empty
array is a list, and no record.

A record is decoded in two ways, while its text is read and from a value that was read before. They
differ in what is said of a document that is no record, and in nothing else. Decoders that agree up
to such faults are put together from parts that do (`Agree`).

## Main definitions

* `Json.Agree`: Two decoders make the same of every document, if they make anything of it.
* `Json.Field.Agree`, `Json.Fields.Agree`: The same of fields and of descriptions of records.
* `Json.Doc.IsLeaf`: A document that is neither an array nor an object.

## Theorems

* `Json.Fields.record_agree`: Records agree if their fields do.
* `Json.Fields.list_of_record`: A record is no list of records.
* `TestRecord.decoder_agree`, `Release.decoder_agree`: Records from texts and from values.
* `TestRecord.list_of_decoder`, `Release.list_of_decoder`: Records are no lists of records.
* `Json.oneOrMany_of_record`, `Json.oneOrMany_of_items`: What a file with one or many holds.
* `Source.ofJson_of_read`: The records of a file with a value.
-/

namespace RunReport

theorem toOption_bind {ε α β : Type} (x : Except ε α) (f : α → Except ε β) :
    (x >>= f).toOption = x.toOption.bind fun a => (f a).toOption := by
  cases x with
  | error e => rfl
  | ok a => rfl

theorem toOption_map {ε α β : Type} (x : Except ε α) (f : α → β) :
    (x.map f).toOption = x.toOption.map f := by
  cases x with
  | error e => rfl
  | ok a => rfl

theorem toOption_eq_some {ε α : Type} (x : Except ε α) (a : α) :
    x.toOption = some a ↔ x = .ok a := by
  cases x with
  | error e => simp only [Except.toOption, reduceCtorEq]
  | ok b => simp only [Except.toOption, Option.some.injEq, Except.ok.injEq]

namespace Json

/-! ### Decoders that agree -/

/-- Two decoders make the same of every document, if they make anything of it. -/
def Agree {α : Type} (read read' : Decoder α) : Prop :=
  ∀ d, (read d).toOption = (read' d).toOption

theorem Agree.refl {α : Type} (read : Decoder α) : Agree read read :=
  fun _ => rfl

namespace Decoder

variable {α : Type}

theorem agree_list {read read' : Decoder α} (h : Agree read read') :
    Agree (list read) (list read') := by
  have hitems : ∀ ds, (items read ds).toOption = (items read' ds).toOption := by
    intro ds
    induction ds with
    | nil => rfl
    | cons d ds ih => simp only [items, toOption_bind, h d, ih]
  intro d
  cases d with
  | array ds fault => simp only [list, toOption_bind, hitems]
  | _ => rfl

/-- Where a name comes from matters only for what is said of a document that is none. -/
theorem agree_name (names : List (String × α)) (origin origin' : Origin) :
    Agree (name names origin) (name names origin') := by
  have hmore : ∀ origin key d member members fault,
      (name names origin (.object ((key, d) :: member :: members) fault)).toOption = none := by
    intro origin key d member members fault
    cases key with
    | error f => rfl
    | ok s =>
        cases origin with
        | value => rfl
        | text =>
            -- The name and its value are looked at before the other member is noticed.
            change (name.find names s >>= fun _ => nothing d >>= fun _ => _).toOption = none
            rw [toOption_bind]
            cases name.find names s with
            | error e => rfl
            | ok x => cases nothing d <;> rfl
  intro d
  cases d with
  | string s fault =>
      cases s with
      | ok s => rfl
      | error f => cases origin <;> cases origin' <;> rfl
  | object members fault =>
      rcases members with - | ⟨⟨key, d⟩, - | ⟨member, members⟩⟩
      · cases fault <;> cases origin <;> cases origin' <;> rfl
      · cases key <;> rfl
      · rw [hmore, hmore]
  | _ => cases origin <;> cases origin' <;> rfl

end Decoder

/-- Two fields that differ at most in what is said of a document that they refuse. -/
structure Field.Agree (a b : Field) : Prop where
  name : a.name = b.name
  required : a.required = b.required
  check : ∀ d, (a.check d).toOption = (b.check d).toOption

theorem Field.Agree.ofRead {α : Type} (name : String) (required : Bool) {read read' : Decoder α}
    (h : Json.Agree read read') :
    Field.Agree ⟨name, required, fun d => (read d).map fun _ => ()⟩
      ⟨name, required, fun d => (read' d).map fun _ => ()⟩ := by
  refine ⟨rfl, rfl, fun d => ?_⟩
  rw [toOption_map, toOption_map, h d]

namespace Fields

variable {α β : Type}

/-- Two descriptions of a record whose fields agree and that build the same. -/
structure Agree (f f' : Fields α) : Prop where
  fields : List.Forall₂ Field.Agree f.fields f'.fields
  build : ∀ docs, (f.build docs).toOption = (f'.build docs).toOption

theorem Agree.refl (f : Fields α) : Agree f f :=
  ⟨List.forall₂_same.mpr fun _ _ => ⟨rfl, rfl, fun _ => rfl⟩, fun _ => rfl⟩

theorem Agree.and {f f' : Fields (α → β)} (h : Agree f f') {field field' : Field}
    (hfield : field.Agree field') {read read' : Option Doc → Decoded α}
    (hread : ∀ d, (read d).toOption = (read' d).toOption) :
    Agree (f.and field read) (f'.and field' read') := by
  refine ⟨List.rel_append h.fields (.cons hfield .nil), fun docs => ?_⟩
  simp only [Fields.and, toOption_bind, h.build, hread, hfield.name]

theorem Agree.required {f f' : Fields (α → β)} (h : Agree f f') (name : String)
    {read read' : Decoder α} (hread : Json.Agree read read') :
    Agree (f.required name read) (f'.required name read') := by
  refine h.and (.ofRead name true hread) fun d => ?_
  cases d with
  | none => rfl
  | some d => exact hread d

theorem Agree.optional {f f' : Fields (α → β)} (h : Agree f f') (name : String)
    {read read' : Decoder α} (hread : Json.Agree read read') (default : α) :
    Agree (f.optional name read default) (f'.optional name read' default) := by
  refine h.and (.ofRead name false hread) fun d => ?_
  cases d with
  | none => rfl
  | some d => exact hread d

/-- A search that asks for no more than names and what is required finds fields that agree. -/
theorem find?_agree {fields fields' : List Field} (h : List.Forall₂ Field.Agree fields fields')
    {p : Field → Bool} (hp : ∀ a b, Field.Agree a b → p a = p b) :
    Option.Rel Field.Agree (fields.find? p) (fields'.find? p) := by
  induction h with
  | nil => exact .none
  | @cons a b fields fields' hab _ ih =>
      rw [List.find?_cons, List.find?_cons, hp a b hab]
      cases p b with
      | true => exact .some hab
      | false => exact ih

theorem checkMembers_agree {fields fields' : List Field}
    (h : List.Forall₂ Field.Agree fields fields') (found : List (String × Doc))
    (members : List (Except Fault String × Doc)) :
    (checkMembers fields found members).toOption
      = (checkMembers fields' found members).toOption := by
  induction members generalizing found with
  | nil => rfl
  | cons member members ih =>
      rcases member with ⟨- | key, d⟩
      · rfl
      -- Fields that agree have one name, so both lists find their fields at one place.
      have hfind := find?_agree h (p := fun f => decide (f.name = key))
        fun a b hab => by rw [hab.name]
      rw [checkMembers, checkMembers]
      generalize fields.find? _ = a at hfind ⊢
      generalize fields'.find? _ = b at hfind ⊢
      cases hfind with
      | none =>
          cases d.passed with
          | some f => rfl
          | none => exact ih found
      | some hab =>
          dsimp only
          split
          · rfl
          · simp only [toOption_bind, hab.check d, ih]

theorem checkRequired_agree {fields fields' : List Field}
    (h : List.Forall₂ Field.Agree fields fields') (found : List (String × Doc)) :
    (checkRequired fields found).toOption = (checkRequired fields' found).toOption := by
  have hfind := find?_agree h (p := fun f => f.required && (lookup found f.name).isNone)
    fun a b hab => by rw [hab.name, hab.required]
  unfold checkRequired
  generalize fields.find? _ = a at hfind ⊢
  generalize fields'.find? _ = b at hfind ⊢
  cases hfind with
  | none => rfl
  | some hab => rfl

theorem checkItems_agree {fields fields' : List Field}
    (h : List.Forall₂ Field.Agree fields fields') (origin origin' : Origin) (fault : Option Fault)
    (found : List (String × Doc)) (ds : List Doc) :
    (checkItems origin fault found fields ds).toOption
      = (checkItems origin' fault found fields' ds).toOption := by
  induction ds generalizing fields fields' found with
  | nil =>
      have hany : fields.any (·.required) = fields'.any (·.required) := by
        induction h with
        | nil => rfl
        | cons hab _ ih => rw [List.any_cons, List.any_cons, hab.required, ih]
      simp only [checkItems, toOption_bind, hany]
  | cons d ds ih =>
      cases h with
      | nil => cases origin <;> cases origin' <;> rfl
      | cons hab h => simp only [checkItems, toOption_bind, hab.check d, hab.name, ih h]

/-- Records agree if their fields do, whether they come from a text or from a value. -/
theorem record_agree {f f' : Fields α} (h : Agree f f') (origin origin' : Origin) :
    Json.Agree (f.record origin) (f'.record origin') := by
  intro d
  cases d with
  | object members fault =>
      simp only [record, ofMembers, toOption_bind, checkMembers_agree h.fields,
        checkRequired_agree h.fields, h.build]
  | array items fault =>
      simp only [record, ofItems, toOption_bind, checkItems_agree h.fields origin origin', h.build]
  | _ => rfl

end Fields

/-! ### Records are no lists -/

/-- A document that is neither an array nor an object. -/
def Doc.IsLeaf : Doc → Prop
  | .array _ _ => False
  | .object _ _ => False
  | _ => True

theorem Decoder.isLeaf_of_word {d : Doc} {n : UInt64} (h : word d = .ok n) : d.IsLeaf := by
  cases d with
  | array ds fault => cases h
  | object members fault => cases h
  | _ => trivial

theorem Decoder.isLeaf_of_text {d : Doc} {s : String} (h : text d = .ok s) : d.IsLeaf := by
  cases d with
  | array ds fault => cases h
  | object members fault => cases h
  | _ => trivial

namespace Fields

variable {α β : Type}

theorem record_of_isLeaf (f : Fields α) (origin : Origin) {d : Doc} (h : d.IsLeaf) :
    ∃ e, f.record origin d = .error e := by
  cases d with
  | array ds fault => exact h.elim
  | object members fault => exact h.elim
  | _ => exact ⟨_, rfl⟩

/-- A record is no list of records if its first field must be there and is neither an array nor an
    object. -/
theorem list_of_record {f : Fields α} {name : String} {read : Decoder β} {others : List Field}
    (hfields : f.fields = ⟨name, true, fun d => (read d).map fun _ => ()⟩ :: others)
    (hleaf : ∀ d y, read d = .ok y → d.IsLeaf) {origin : Origin} {d : Doc} {x : α}
    (h : f.record origin d = .ok x) : ∃ e, Decoder.list (f.record origin) d = .error e := by
  cases d with
  | array ds fault =>
      cases hchecked : checkItems origin fault [] f.fields ds with
      | error e =>
          rw [record, ofItems, hchecked] at h
          cases h
      | ok found =>
          rw [hfields] at hchecked
          cases ds with
          | nil =>
              -- The first field cannot be left out.
              rw [checkItems, List.any_cons] at hchecked
              cases fault <;> cases hchecked
          | cons d ds =>
              rw [checkItems] at hchecked
              cases hread : read d with
              | error e =>
                  simp only [hread] at hchecked
                  cases hchecked
              | ok y =>
                  rcases record_of_isLeaf f origin (hleaf d y hread) with ⟨e, he⟩
                  refine ⟨e, ?_⟩
                  rw [Decoder.list, Decoder.items, he]
                  rfl
  | _ => exact ⟨_, rfl⟩

end Fields

/-! ### One or many -/

variable {α : Type} {read : Origin → Decoder α}

/-- A record that is no list of records is the only one of its file. -/
theorem oneOrMany_of_record {v : Json} {x : α}
    (hlist : ∃ e, Decoder.list (read .value) (Doc.ofJson v) = .error e)
    (hv : decodeValue read v = .ok x) : oneOrMany read v = .ok [x] := by
  rcases hlist with ⟨e, he⟩
  rw [oneOrMany, he, hv]

/-- The records of an array are those of its file. -/
theorem oneOrMany_of_items {vs : List Json} {xs : List α}
    (h : List.Forall₂ (fun v x => decodeValue read v = .ok x) vs xs) :
    oneOrMany read (.array vs) = .ok xs := by
  have hitems : Decoder.items (read .value) (Doc.ofItems vs) = .ok xs := by
    induction h with
    | nil => rfl
    | @cons v x vs xs hv _ ih =>
        rw [decodeValue] at hv
        rw [Doc.ofItems, Decoder.items, hv, ih]
        rfl
  rw [oneOrMany, Doc.ofJson, Decoder.list, hitems]
  rfl

end Json

open Json (Origin Doc Decoder)

/-! ### Test records and releases -/

theorem TestRecord.decoder_agree (origin origin' : Origin) :
    Json.Agree (decoder origin) (decoder origin') :=
  Json.Fields.record_agree (.refl fields) origin origin'

theorem Build.decoder_agree (origin origin' : Origin) :
    Json.Agree (decoder origin) (decoder origin') :=
  Json.Fields.record_agree (.refl fields) origin origin'

theorem Release.decoder_agree (origin origin' : Origin) :
    Json.Agree (decoder origin) (decoder origin') := by
  have hstatus := Decoder.agree_name ReleaseStatus.names origin origin'
  have hbuilds := Decoder.agree_list (Build.decoder_agree origin origin')
  refine Json.Fields.record_agree ?_ origin origin'
  exact Json.Fields.Agree.refl _
    |>.required "id" (.refl _)
    |>.required "name" (.refl _)
    |>.optional "text" (.refl _) ""
    |>.optional "status" hstatus ReleaseStatus.active
    |>.required "build_version" (.refl _)
    |>.optional "builds" hbuilds []

/-- A test record is no list of them: its id is a number. -/
theorem TestRecord.list_of_decoder {d : Doc} {t : TestRecord} (h : decoder .value d = .ok t) :
    ∃ e, Decoder.list (decoder .value) d = .error e :=
  Json.Fields.list_of_record rfl (fun _ _ => Decoder.isLeaf_of_word) h

/-- A release is no list of them: its id is a string. -/
theorem Release.list_of_decoder {d : Doc} {r : Release} (h : decoder .value d = .ok r) :
    ∃ e, Decoder.list (decoder .value) d = .error e :=
  Json.Fields.list_of_record rfl (fun _ _ => Decoder.isLeaf_of_text) h

/-! ### Files -/

/-- The records of a file whose text has a value are those of the value. -/
theorem Source.ofJson_of_read {α : Type} (read : Origin → Decoder α) {w : Workspace}
    {path : String} {text : List UInt8} {v : Json} (htext : w.read path = .ok text)
    (hvalue : Json.read text = .ok v) :
    ofJson read w path = (Json.oneOrMany read v).mapError .json := by
  unfold Json.read at hvalue
  unfold ofJson jsonBytes
  rw [htext]
  simp only [bind, Except.bind] at hvalue ⊢
  -- Both ways read the same document, and the value is there if nothing stands behind it.
  generalize Doc.read text = reading at hvalue ⊢
  rcases reading with ⟨d, after⟩
  cases hstrict : d.strict Doc.fullRoom with
  | error f => exact absurd hvalue (by simp [hstrict])
  | ok v' =>
      cases hclosed : Doc.closed after with
      | error f => exact absurd hvalue (by simp [hstrict, hclosed])
      | ok u =>
          simp only [hstrict, hclosed, Except.ok.injEq] at hvalue
          simp only [hvalue, Except.mapError]
          cases Json.oneOrMany read v with
          | error e => rfl
          | ok xs => rfl

end RunReport
