import RunReport.Page.TestInfo
import RunReport.Proofs.FormEncoding
import RunReport.Proofs.Numeral

/-!
# The Link That Removes a Record

Which record is removed by the link on the page of a test.

The link goes on after the query that the administrator's address already has, and of two parameters
with the same name the reader takes the first. So the link says what the page means as long as that
query has no test and no mode of its own; if it has, these count, and the record that is removed
need not be the one on the page. `deleteLink_reads` says so in both directions.

## Theorems

* `read_appendPairs`: Pairs that go on after a query come after its own parameters.
* `parameter_append`: Of two parameters with the same name the first counts.
* `ofQuery_eq_delete_iff`: When a query asks for the removal of a record.
* `deleteLink_eq_some`: When there is a link, and what it is.
* `deleteLink_reads`: What is read from the link.
* `deleteLink_reads_plain`: A link from an address with another parameter.
* `deleteLink_names_other`: A link from an address with a test of its own.
-/

namespace RunReport

/-- Pairs that go on after a query come after its own parameters. -/
theorem Query.read_appendPairs (u : Url) (ps : List (String × String)) :
    (read ((u.appendPairs ps).query.getD "")).parameters
      = (read (u.query.getD "")).parameters ++ ps := by
  unfold Url.appendPairs
  split
  · next hquery =>
      rw [hquery]
      exact read_pairsText ps
  · next hquery =>
      rw [hquery]
      exact read_pairsText ps
  · next q hne hquery =>
      rw [hquery]
      exact read_append q ps

/-- Of two parameters with the same name the first counts. -/
theorem Query.parameter_append (q own : Query) (ps : List (String × String)) (name : String)
    (hq : q.parameters = own.parameters ++ ps) :
    q.parameter name = (own.parameter name).or ((ps.find? (·.1 = name)).map (·.2)) := by
  rw [parameter, hq, List.find?_append, Option.map_or]
  rfl

/-- A query asks for the removal of a record by the word for it. -/
theorem FormMode.ofQuery_eq_delete_iff (q : Query) :
    FormMode.ofQuery q = .delete ↔ q.parameter Parameter.mode = some "delete" := by
  unfold FormMode.ofQuery
  constructor
  · intro h
    split at h
    · cases h
    · next hmode => exact hmode
    · cases h
  · intro h
    rw [h]
    rfl

namespace TestInfoPage

open Page

/-- There is a link if the page has a record and an address for administrators, and is shown to one,
    and it names the record and the mode behind the query of that address. -/
theorem deleteLink_eq_some (p : TestInfoPage) (link : Url) (h : p.deleteLink = some link) :
    ∃ t url, p.test = some t ∧ p.adminUrl = some url ∧
      link = url.appendPairs [(Parameter.testId, idText t.id), (Parameter.mode, "delete")] := by
  unfold deleteLink at h
  split at h
  · split at h
    · next t url ht hurl => exact ⟨t, url, ht, hurl, (Option.some.inj h).symm⟩
    · cases h
  · cases h

/-- The parameters of the link are those of the administrator's address and then its own, and it has
    the address's other parts. It names the record of the page if the address has no test, or the
    same one, in its own query, and asks for its removal if the address has no mode, or this one. -/
theorem deleteLink_reads (p : TestInfoPage) (link : Url) (h : p.deleteLink = some link) :
    ∃ t url, p.test = some t ∧ p.adminUrl = some url ∧
      let own := Query.read (url.query.getD "")
      let q := Query.read (link.query.getD "")
      link = { url with query := link.query } ∧
      q.parameters
        = own.parameters ++ [(Parameter.testId, idText t.id), (Parameter.mode, "delete")] ∧
      (q.id? Parameter.testId = some t.id ↔
        ∀ v ∈ own.parameter Parameter.testId, Numeral.word? (Text.trim v.toList) = some t.id) ∧
      (FormMode.ofQuery q = .delete ↔ ∀ v ∈ own.parameter Parameter.mode, v = "delete") := by
  rcases p.deleteLink_eq_some link h with ⟨t, url, ht, hurl, rfl⟩
  refine ⟨t, url, ht, hurl, ?_⟩
  intro own q
  have hq : q.parameters
      = own.parameters ++ [(Parameter.testId, idText t.id), (Parameter.mode, "delete")] :=
    Query.read_appendPairs url _
  have hparts : ∀ ps, url.appendPairs ps = { url with query := (url.appendPairs ps).query } := by
    intro ps
    unfold Url.appendPairs
    split <;> rfl
  refine ⟨hparts _, hq, ?_, ?_⟩
  · have htest : q.parameter Parameter.testId
        = (own.parameter Parameter.testId).or (some (idText t.id)) :=
      Query.parameter_append q own _ Parameter.testId hq
    rw [Query.id?, Query.value, htest]
    -- The first parameter counts, so the pair of the link is read only where the address has none.
    cases own.parameter Parameter.testId with
    | none =>
        refine ⟨fun _ v hv => absurd hv (Option.not_mem_none v), fun _ => ?_⟩
        exact Numeral.word?_trim_text t.id
    | some v =>
        simp only [Option.some_or, Option.bind_some, Option.mem_def, Option.some.injEq, forall_eq']
  · have hmode : q.parameter Parameter.mode
        = (own.parameter Parameter.mode).or (some "delete") :=
      Query.parameter_append q own _ Parameter.mode hq
    rw [FormMode.ofQuery_eq_delete_iff, hmode]
    cases own.parameter Parameter.mode with
    | none =>
        exact ⟨fun _ v hv => absurd hv (Option.not_mem_none v), fun _ => rfl⟩
    | some v =>
        simp only [Option.some_or, Option.mem_def, Option.some.injEq, forall_eq']

/-- The page of record 12 for an administrator. -/
def adminPage (query : String) : TestInfoPage :=
  { formUrl := { scheme := "http", path := "/test" }
    adminUrl := some { scheme := "http", path := "/admin/test", query := some query }
    adminMode := true
    test := some { id := 12, displayName := "login" } }

/-- From an address with another parameter the link removes the record of the page. -/
theorem deleteLink_reads_plain :
    let p := adminPage "theme=dark"
    let link : Url :=
      { scheme := "http", path := "/admin/test"
        query := some "theme=dark&testId=12&mode=delete" }
    let q := Query.read (link.query.getD "")
    p.deleteLink = some link ∧ q.id? Parameter.testId = some 12 ∧
      FormMode.ofQuery q = .delete := by
  intro p link q
  have hlink : p.deleteLink = some link := by
    decide +kernel
  rcases deleteLink_reads p link hlink with ⟨t, url, ht, hurl, -, -, hid, hmode⟩
  cases ht
  cases hurl
  exact ⟨hlink, hid.mpr (by decide +kernel), hmode.mpr (by decide +kernel)⟩

/-- From an address with a test of its own the link removes this test and not the one of the page.
    The address may also ask for another mode. -/
theorem deleteLink_names_other :
    let link := (adminPage "testId=5&mode=view").deleteLink
    let q := Query.read ((link.bind Url.query).getD "")
    link.isSome ∧ q.id? Parameter.testId = some 5 ∧ FormMode.ofQuery q = .view := by
  decide +kernel

end TestInfoPage

end RunReport
