import RunReport.Proofs.TemplateShape
import RunReport.Report

/-!
# No Page Fails

Every page can be rendered, whatever it shows.

The pages put together by hand what their templates read by name, and a name that is missing, or
bound to something else than the template expects, would show up only for the records that lead to
it. For each page the shape of its bindings is written down once. That the bindings have this shape
holds for every record, since only texts and numbers in them depend on records, and that a template
reads no more than the shape has can be decided.

A report can fail for many reasons, but its template is none of them. Whatever comes before the
page fails with a failure of its own, and a page that is there is never replaced by a failure.

## Main definitions

* `Page.Renders`: A page is there, and its template found all it asked for.
* `Page.tableScope`: The shapes of the bindings of a table.
* `TestListPage.scope` and its like: The shapes of the bindings of each page.
* `Report.Other`: A step that does not fail for its template.
* `Report.HasPage`: A report that, if it gets to its page, has one.

## Theorems

* `renders_of_shapes`: A page whose bindings have the shapes that its template reads is there.
* `covers_bindings`: The bindings of each page have their shapes.
* `renders`: Each page is there.
* `other_bind`, `other_mapError`: Steps after one another, and with another failure.
* `other_tests`, `other_criteria` and their like: The steps before a page.
* `hasPage_ofManifest`: A report that gets to its page has one.
* `pages_render`: No report fails for its template, and no page is replaced by a failure.
-/

namespace RunReport

open Template

namespace Page

/-- A page is there, and its template found all it asked for. Then neither of the two ways to make a
    report of a template has anything to report. -/
def Renders [TemplateLibrary] (page : Option String) (t : Template) (env : Bindings) : Prop :=
  Supplied env t.nodes ∧
    ∃ html, page = some html ∧ Report.bestEffort t env = .ok html ∧
      Report.strictly t env = .ok html

/-- A template that is filled in is shown as it is. -/
theorem bestEffort_of_render [TemplateLibrary] (t : Template) (env : Bindings) (html : String)
    (h : t.render env = some html) : Report.bestEffort t env = .ok html := by
  rw [Report.bestEffort, h]
  rfl

/-- A page whose bindings have the shapes that its template reads is there. -/
theorem renders_of_shapes [TemplateLibrary] (t : Template) (scope : Scope) (env : Bindings)
    (hscope : scope.Covers env) (h : isSupplied scope t.nodes = true) :
    Renders (t.render env) t env := by
  have hsupplied := supplied_of_isSupplied scope env hscope t.nodes h
  rcases renderNodes_of_supplied env t.nodes hsupplied with ⟨html, hhtml⟩
  refine ⟨hsupplied, html, hhtml, bestEffort_of_render t env html hhtml, ?_⟩
  rw [Report.strictly, Template.render, hhtml]

/-- The shapes of the bindings of a table. -/
def tableScope (row : Shape) : Scope :=
  [("no_results", .any), ("rows", .list row)]

theorem covers_any (v : Value) : Shape.any.Covers v := by
  rw [Shape.Covers]
  trivial

theorem covers_listOf (row : Shape) (rows : List Value) (h : ∀ v ∈ rows, row.Covers v) :
    (Shape.list row).Covers (.list rows) := by
  rw [Shape.Covers]
  exact ⟨rows, rfl, h⟩

theorem covers_tableBindings (row : Shape) (rows : List Value) (h : ∀ v ∈ rows, row.Covers v) :
    (tableScope row).Covers (tableBindings rows) :=
  Scope.covers_cons _ _ _ _ _ (covers_any _)
    (Scope.covers_cons _ _ _ _ _ (covers_listOf row rows h) (Scope.covers_nil []))

end Page

open Page

namespace TestListPage

/-- The shape of a row. -/
def rowShape : Shape :=
  .object [
    ("first", .any), ("number", .int), ("rowspan", .int), ("count", .int), ("group", .any),
    ("elapsed", .any), ("status", .any), ("url", .any), ("row_class", .any),
    ("status_class", .any), ("time_class", .any)]

/-- The shapes of the bindings. -/
def scope : Scope :=
  ("form_url", .any) :: tableScope rowShape

theorem covers_row (r : TestListRow) : rowShape.Covers r.value := by
  simp [rowShape, TestListRow.value, Shape.Covers, Shape.CoversMembers, Value.member?, Value.count]

theorem covers_bindings (p : TestListPage) : scope.Covers p.bindings := by
  refine Scope.covers_cons _ _ _ _ _ (covers_any _) (covers_tableBindings _ _ fun v hv => ?_)
  rcases List.mem_map.mp hv with ⟨r, -, rfl⟩
  exact covers_row r

theorem renders [TemplateLibrary] (p : TestListPage) : Renders p.render template p.bindings :=
  renders_of_shapes template scope p.bindings p.covers_bindings rfl

end TestListPage

namespace TestHistoryPage

/-- The shape of a row. -/
def rowShape : Shape :=
  .object [
    ("id", .any), ("url", .any), ("start", .any), ("end", .any), ("elapsed", .any),
    ("status", .any), ("row_class", .any), ("status_class", .any), ("time_class", .any)]

/-- The shapes of the bindings. -/
def scope : Scope :=
  ("form_url", .any) :: tableScope rowShape

theorem covers_row (r : TestHistoryRow) : rowShape.Covers r.value := by
  simp [rowShape, TestHistoryRow.value, Shape.Covers, Shape.CoversMembers, Value.member?]

theorem covers_bindings (p : TestHistoryPage) : scope.Covers p.bindings := by
  refine Scope.covers_cons _ _ _ _ _ (covers_any _) (covers_tableBindings _ _ fun v hv => ?_)
  rcases List.mem_map.mp hv with ⟨r, -, rfl⟩
  exact covers_row r

theorem renders [TemplateLibrary] (p : TestHistoryPage) : Renders p.render template p.bindings :=
  renders_of_shapes template scope p.bindings p.covers_bindings rfl

end TestHistoryPage

namespace SuiteListPage

/-- The shape of a row. Its address may be missing, but there is always a value for it. -/
def rowShape : Shape :=
  .object [
    ("name", .any), ("url", .any), ("incomplete", .any), ("status", .any), ("elapsed", .any),
    ("passing", .int), ("failing", .int), ("skipped", .int), ("blacklisted", .int),
    ("long", .int), ("killed", .int), ("total", .any), ("row_class", .any),
    ("passing_class", .any), ("failing_class", .any), ("skipped_class", .any),
    ("long_class", .any), ("total_class", .any)]

/-- The shapes of the bindings. -/
def scope : Scope :=
  tableScope rowShape

theorem covers_row (r : SuiteListRow) : rowShape.Covers r.value := by
  simp [rowShape, SuiteListRow.value, Shape.Covers, Shape.CoversMembers, Value.member?, Value.count]

theorem covers_bindings (p : SuiteListPage) : scope.Covers p.bindings := by
  refine covers_tableBindings _ _ fun v hv => ?_
  rcases List.mem_map.mp hv with ⟨r, -, rfl⟩
  exact covers_row r

theorem renders [TemplateLibrary] (p : SuiteListPage) : Renders p.render template p.bindings :=
  renders_of_shapes template scope p.bindings p.covers_bindings rfl

end SuiteListPage

namespace TestInfoPage

/-- The shape of a field. -/
def fieldShape : Shape :=
  .object [
    ("name", .any), ("value", .any), ("width", .int), ("disabled", .any), ("hidden", .any)]

/-- The shape of a row. -/
def rowShape : Shape :=
  .object [("label", .any), ("field", fieldShape), ("link", .any)]

/-- The shapes of the bindings. -/
def scope : Scope :=
  [("form_url", .any), ("input_mode", .any), ("hidden", .list fieldShape),
    ("rows", .list rowShape), ("delete_url", .any)]

theorem covers_field (f : FormField) : fieldShape.Covers f.asValue := by
  simp [fieldShape, FormField.asValue, Shape.Covers, Shape.CoversMembers, Value.member?,
    Value.count]

theorem covers_row (r : FormRow) : rowShape.Covers r.asValue := by
  have hfield := covers_field r.field
  simp only [rowShape, FormRow.asValue, Shape.Covers, Shape.CoversMembers]
  exact ⟨⟨_, rfl, trivial⟩, ⟨_, rfl, hfield⟩, ⟨_, rfl, trivial⟩, trivial⟩

theorem covers_bindings (p : TestInfoPage) : scope.Covers p.bindings := by
  refine Scope.covers_cons _ _ _ _ _ (covers_any _) <|
    Scope.covers_cons _ _ _ _ _ (covers_any _) <|
    Scope.covers_cons _ _ _ _ _ (covers_listOf _ _ fun v hv => ?_) <|
    Scope.covers_cons _ _ _ _ _ (covers_listOf _ _ fun v hv => ?_) <|
    Scope.covers_cons _ _ _ _ _ (covers_any _) (Scope.covers_nil [])
  · rcases List.mem_map.mp hv with ⟨r, -, rfl⟩
    exact covers_field r.field
  · rcases List.mem_map.mp hv with ⟨r, -, rfl⟩
    exact covers_row r

theorem renders [TemplateLibrary] (p : TestInfoPage) : Renders p.render template p.bindings :=
  renders_of_shapes template scope p.bindings p.covers_bindings rfl

end TestInfoPage

namespace ReleaseListPage

/-- The shape of a group of builds. -/
def groupShape : Shape :=
  .object [("url", .any), ("label", .any), ("version", .any)]

/-- The shape of a release. -/
def releaseShape : Shape :=
  .object [
    ("id", .any), ("name", .any), ("text", .any), ("url", .any), ("retired", .any),
    ("groups", .list groupShape)]

/-- The shapes of the bindings. -/
def scope : Scope :=
  [("releases", .list releaseShape)]

theorem covers_group (p : ReleaseListPage) (r : Release) (g : ChangelistGroup) :
    groupShape.Covers (p.groupValue r g) := by
  simp [groupShape, groupValue, Shape.Covers, Shape.CoversMembers, Value.member?]

theorem covers_release (p : ReleaseListPage) (r : Release) :
    releaseShape.Covers (p.releaseValue r) := by
  have hgroups := covers_listOf groupShape (r.changelistGroups.map (p.groupValue r)) fun v hv => by
    rcases List.mem_map.mp hv with ⟨g, -, rfl⟩
    exact p.covers_group r g
  simp only [releaseShape, releaseValue, Shape.Covers, Shape.CoversMembers] at hgroups ⊢
  exact ⟨⟨_, rfl, trivial⟩, ⟨_, rfl, trivial⟩, ⟨_, rfl, trivial⟩, ⟨_, rfl, trivial⟩,
    ⟨_, rfl, trivial⟩, ⟨_, rfl, hgroups⟩, trivial⟩

theorem covers_bindings (p : ReleaseListPage) : scope.Covers p.bindings := by
  refine Scope.covers_cons _ _ _ _ _ (covers_listOf _ _ fun v hv => ?_) (Scope.covers_nil [])
  rcases List.mem_map.mp hv with ⟨r, -, rfl⟩
  exact p.covers_release r

theorem renders [TemplateLibrary] (p : ReleaseListPage) : Renders p.render template p.bindings :=
  renders_of_shapes template scope p.bindings p.covers_bindings rfl

end ReleaseListPage

/-! ### Reports -/

/-- A step that does not fail for its template. -/
def Report.Other {α : Type} (step : Except Failure α) : Prop :=
  ∀ cause, step ≠ .error (.template cause)

section Steps

open Report

variable {α β ε : Type}

theorem other_ok (x : α) : Other (.ok x : Except Failure α) := by
  intro cause h
  cases h

/-- One step after another. -/
theorem other_bind (step : Except Failure α) (next : α → Except Failure β) (h : Other step)
    (hnext : ∀ x, Other (next x)) : Other (step >>= next) := by
  cases step with
  | error f => exact fun cause heq => h cause (congrArg Except.error (Except.error.inj heq))
  | ok x => exact hnext x

/-- The fault of a step as a failure of another kind. -/
theorem other_mapError (step : Except ε α) (f : ε → Failure)
    (h : ∀ e cause, f e ≠ .template cause) : Other (step.mapError f) := by
  cases step with
  | error e => exact fun cause heq => h e cause (Except.error.inj heq)
  | ok x => exact other_ok x

theorem other_map (step : Except Failure α) (f : α → β) (h : Other step) : Other (step.map f) := by
  cases step with
  | error e => exact fun cause heq => h cause (congrArg Except.error (Except.error.inj heq))
  | ok x => exact other_ok (f x)

end Steps

namespace Source

open Report

theorem other_ofPath (path : String) : Other (RecordFormat.ofPath path) := by
  intro cause h
  simp only [RecordFormat.ofPath] at h
  split at h <;> cases h

theorem other_ofJson {α : Type} (read : Json.Origin → Json.Decoder α) (w : Workspace)
    (path : String) : Other (ofJson read w path) := by
  have hbytes : Other (jsonBytes w path) := by
    unfold jsonBytes
    intro cause h
    split at h <;> cases h
  refine other_bind _ _ hbytes fun bytes => ?_
  refine other_bind _ _ (other_mapError _ _ fun _ _ h => by cases h) fun value => ?_
  refine other_bind _ _ (other_mapError _ _ fun _ _ h => by cases h) fun records => ?_
  exact other_bind _ _ (other_mapError _ _ fun _ _ h => by cases h) fun _ => other_ok records

theorem other_tests (w : Workspace) (path : String) : Other (tests w path) := by
  refine other_bind _ _ (other_ofPath path) fun format => ?_
  cases format with
  | json => exact other_ofJson _ w path
  | csv =>
      change Other (ofCsv w path)
      unfold ofCsv
      split
      · exact fun _ h => by cases h
      · exact other_mapError _ _ fun _ _ h => by cases h

theorem other_jsonOnly {α : Type} (read : Json.Origin → Json.Decoder α) (w : Workspace)
    (path : String) : Other (jsonOnly read w path) := by
  refine other_bind _ _ (other_ofPath path) fun format => ?_
  cases format with
  | json => exact other_ofJson _ w path
  | csv => exact fun _ h => by cases h

end Source

namespace Report

variable (w : Workspace) (m : Manifest) (q : Query)

theorem other_source (name : String) (path : Option String) : Other (source name path) := by
  cases path with
  | none => exact fun _ h => by cases h
  | some path => exact other_ok path

theorem other_tests : Other (tests w m) :=
  other_bind _ _ (other_source _ _) fun path => Source.other_tests w path

theorem other_criteria [PatternLibrary] : Other ((criteria m q).mapError Failure.parameter) :=
  other_mapError _ _ fun _ _ h => by cases h

theorem other_testAt (path : Option String) : Other (testAt? w path) := by
  cases path with
  | none => exact other_ok none
  | some path => exact other_map _ _ (Source.other_tests w path)

theorem other_subjectAt (path : String) : Other (subjectAt w path) := by
  refine other_bind _ _ (Source.other_ofPath path) fun format => ?_
  cases format with
  | json =>
      refine other_bind _ _ (other_map _ _ (Source.other_jsonOnly _ w path)) fun record => ?_
      exact other_ok _
  | csv =>
      refine other_bind _ _ (other_map _ _ (Source.other_tests w path)) fun record => ?_
      exact other_ok _

/-- A report that, if it gets to its page, has one. -/
def HasPage (report : Except Failure Report) : Prop :=
  Other report ∧ ∀ r, report = .ok r → ∃ html, r.page = .ok html

/-- What comes before the page may fail with a failure of its own. -/
theorem hasPage_bind {α : Type} (step : Except Failure α) (next : α → Except Failure Report)
    (h : Other step) (hnext : ∀ x, HasPage (next x)) : HasPage (step >>= next) := by
  refine ⟨other_bind step next h fun x => (hnext x).1, fun r hr => ?_⟩
  cases step with
  | error f => cases hr
  | ok x => exact (hnext x).2 r hr

theorem hasPage_ok (notes : List LogEntry) (page : Except Failure String)
    (h : ∃ html, page = .ok html) : HasPage (.ok { notes, page }) := by
  refine ⟨other_ok _, fun r hr => ?_⟩
  cases hr
  exact h

theorem hasPage_ofManifest [PatternLibrary] [TemplateLibrary] :
    HasPage (ofManifest w m q) := by
  unfold ofManifest
  cases m.report with
  | list =>
      refine hasPage_bind _ _ (other_criteria m q) fun c => ?_
      refine hasPage_bind _ _ (other_tests w m) fun tests => hasPage_ok _ _ ?_
      rcases (testList m c tests).renders with ⟨-, html, -, hpage, -⟩
      exact ⟨html, hpage⟩
  | history =>
      refine hasPage_bind _ _ (other_criteria m q) fun c => ?_
      refine hasPage_bind _ _ (other_tests w m) fun tests => hasPage_ok _ _ ?_
      rcases (testHistory m q c tests).renders with ⟨-, html, -, hpage, -⟩
      exact ⟨html, hpage⟩
  | info =>
      refine hasPage_bind _ _ (other_testAt w _) fun lastPass => ?_
      refine hasPage_bind _ _ (other_testAt w _) fun lastFail => ?_
      refine hasPage_bind _ _ (other_source _ _) fun path => ?_
      refine hasPage_bind _ _ (other_subjectAt w path) fun subject => hasPage_ok _ _ ?_
      rcases (testInfo m q subject lastPass lastFail).renders with ⟨-, html, -, -, hpage⟩
      exact ⟨html, hpage⟩
  | release =>
      refine hasPage_bind _ _ (other_source _ _) fun path => ?_
      refine hasPage_bind _ _ (Source.other_jsonOnly _ w path) fun releases => hasPage_ok _ _ ?_
      rcases (releaseList m releases).renders with ⟨-, html, -, -, hpage⟩
      exact ⟨html, hpage⟩
  | suites =>
      refine hasPage_bind _ _ (other_criteria m q) fun c => ?_
      refine hasPage_bind _ _ (other_tests w m) fun tests => hasPage_ok _ _ ?_
      rcases (suiteList m c tests).renders with ⟨-, html, -, hpage, -⟩
      exact ⟨html, hpage⟩

/-- No page fails. Each of the five pages is there in every state: its template finds everything it
    reads on the branches it takes, and compares only integers. So no page is replaced by a failure,
    and no report fails for its template. -/
theorem pages_render [PatternLibrary] [TemplateLibrary] :
    (∀ p : TestListPage, Renders p.render TestListPage.template p.bindings) ∧
    (∀ p : TestHistoryPage, Renders p.render TestHistoryPage.template p.bindings) ∧
    (∀ p : SuiteListPage, Renders p.render SuiteListPage.template p.bindings) ∧
    (∀ p : TestInfoPage, Renders p.render TestInfoPage.template p.bindings) ∧
    (∀ p : ReleaseListPage, Renders p.render ReleaseListPage.template p.bindings) ∧
    ∀ w m query notes cause, make w m query ≠ (notes, .error (.template cause)) := by
  refine ⟨TestListPage.renders, TestHistoryPage.renders, SuiteListPage.renders,
    TestInfoPage.renders, ReleaseListPage.renders, fun w m query notes cause h => ?_⟩
  -- A template can only fail where its page is made, and every report has its page.
  have hpage := hasPage_ofManifest w m ((Query.read query).withAttributes m.attributes)
  unfold make at h
  cases hreport : ofManifest w m ((Query.read query).withAttributes m.attributes) with
  | error f =>
      rw [hreport] at h
      exact hpage.1 cause
        (hreport.trans (congrArg Except.error (Except.error.inj (Prod.ext_iff.mp h).2)))
  | ok r =>
      rcases hpage.2 r hreport with ⟨html, hhtml⟩
      rw [hreport] at h
      simp only [hhtml] at h
      cases (Prod.ext_iff.mp h).2

end Report

end RunReport
