import RunReport.Log
import RunReport.Page.ReleaseList
import RunReport.Page.SuiteList
import RunReport.Page.TestHistory
import RunReport.Page.TestInfo
import RunReport.Page.TestList
import RunReport.Store.Source

/-!
# Reports

The page that a manifest and a query ask for.

Each kind of report first finds out what is to be shown, then loads its records and puts them on a
page. The steps from records to pages are functions of their own: what a reader sees depends on the
manifest, the query and the records, and not on the file that they came from. A list whose template
fails shows the failure in place of the page; the details of a test and the list of releases fail
with it.

## Main definitions

* `Report.criteria`: How tests are sorted, highlighted and filtered.
* `Report.testList`, `Report.testHistory`, `Report.suiteList`, `Report.testInfo`,
  `Report.releaseList`: The pages of loaded records.
* `Report.historyOf`: The records whose history is asked for.
* `Report.make`: The notes and the page of a report.
-/

namespace RunReport

/-- What is noted about the records of a report, and its page. -/
structure Report where
  notes : List LogEntry := []
  page : Except Failure String

namespace Report

/-! ### From records to pages -/

/-- How tests are sorted, highlighted and filtered: as the query says, or with the manifest's
    filter if the query has none. -/
def criteria [PatternLibrary] (m : Manifest) (q : Query) : Except RefusedValue Criteria := do
  (← Criteria.ofQuery q).withDefaultFilter m.filter

/-- The highlights of a page. -/
def highlighter (m : Manifest) (c : Criteria) : Highlighter :=
  { longRunning := m.longRunning, criteria := c.highlight }

/-- The list of some records. -/
def testList (m : Manifest) (c : Criteria) (tests : List TestRecord) : TestListPage :=
  let page := (TestListPage.ofTests m.formUrl tests).sorted (c.sort.getD m.groupOrder).compare
  let page := match c.filter with
    | some f => page.filtered f
    | none => page
  { page with isCollapsed := c.isCollapsed, highlighter := highlighter m c }

/-- The records of the test that one of them names by its id: all with its display name. -/
def executionsOf (tests : List TestRecord) (id : UInt64) : Option (List TestRecord) :=
  (tests.find? (·.id = id)).map fun t => tests.filter (·.displayName = t.displayName)

/-- The records whose history is asked for. Without an id these are all of them, and none if there
    is no such test. -/
def historyOf (q : Query) (tests : List TestRecord) : List TestRecord :=
  match q.id? Parameter.testId with
  | some id => (executionsOf tests id).getD []
  | none => tests

/-- The history of a test among some records. -/
def testHistory (m : Manifest) (q : Query) (c : Criteria) (tests : List TestRecord) :
    TestHistoryPage :=
  { formUrl := m.formUrl, tests := historyOf q tests, highlighter := highlighter m c }

/-- The suites of some records. -/
def suiteList (m : Manifest) (c : Criteria) (tests : List TestRecord) : SuiteListPage :=
  let page := SuiteListPage.ofTests m.formUrl tests (highlighter m c)
  match c.filter with
  | some f => page.filtered f
  | none => page

/-- What the details of a test are made from: a plain record or an acceptance record, if there is
    one. -/
inductive Subject
  | test (record : Option TestRecord)
  | acceptance (record : AcceptanceRecord)

/-- The subject of the first record of a file. A record without an author, test cases and stories
    counts as a plain one. -/
def Subject.ofAcceptance (record : Option AcceptanceRecord) : Subject :=
  match record with
  | some a =>
    if a.author = "" ∧ a.testCases = [] ∧ a.stories = [] then .test (some a.test)
    else .acceptance a
  | none => .test none

/-- The details of a test. -/
def testInfo (m : Manifest) (q : Query) (subject : Subject) (lastPass lastFail :
    Option TestRecord) : TestInfoPage :=
  let page : TestInfoPage :=
    { formUrl := m.formUrl
      adminUrl := m.adminUrl
      capabilities := m.capabilities
      inputMode := m.inputMode || FormMode.ofQuery q == .update
      adminMode := m.adminMode }
  match subject with
  | .test record => page.setTest record lastPass lastFail
  | .acceptance record => page.setAcceptance record lastPass lastFail

/-- The list of some releases. -/
def releaseList (m : Manifest) (releases : List Release) : ReleaseListPage :=
  { formUrl := m.formUrl, summaryUrl := m.summaryUrl, format := m.format, releases }

/-! ### From files to reports -/

variable [PatternLibrary] [TemplateLibrary]

/-- The failure of a template that is not filled in. -/
def unfilled (t : Template) (env : Template.Bindings) : Failure :=
  .template (TemplateLibrary.complaint t env)

/-- A template filled in, or a page that shows why it is not. -/
def bestEffort (t : Template) (env : Template.Bindings) : Except Failure String :=
  .ok ((t.render env).getD (unfilled t env).page)

/-- A template filled in, or the failure that it is not. -/
def strictly (t : Template) (env : Template.Bindings) : Except Failure String :=
  match t.render env with
  | some text => .ok text
  | none => .error (unfilled t env)

/-- The path of a source. -/
def source (name : String) (path : Option String) : Except Failure String :=
  match path with
  | some path => .ok path
  | none => .error (.missingSource name)

/-- The records of the tests. -/
def tests (w : Workspace) (m : Manifest) : Except Failure (List TestRecord) := do
  Source.tests w (← source "tests" m.sources.tests)

/-- A note on a number of things. -/
def counted (doing : String) (n : Nat) (things : String) : LogEntry :=
  .info (doing ++ " " ++ Numeral.text n ++ " " ++ things)

/-- The list of tests. -/
def ofList (w : Workspace) (m : Manifest) (q : Query) : Except Failure Report := do
  let c ← (criteria m q).mapError .parameter
  let page := testList m c (← tests w m)
  return { notes := [counted "Listing" page.groups.length "test groups"]
           page := bestEffort TestListPage.template page.bindings }

/-- The note on a test that is not there. -/
def unknownTestNotes (q : Query) (tests : List TestRecord) : List LogEntry :=
  match q.id? Parameter.testId with
  | some id =>
    if (executionsOf tests id).isSome then []
    else [.warning ("Test " ++ Numeral.text id.toNat ++ " not found")]
  | none => []

/-- The history of a test. -/
def ofHistory (w : Workspace) (m : Manifest) (q : Query) : Except Failure Report := do
  let c ← (criteria m q).mapError .parameter
  let tests ← tests w m
  return { notes := unknownTestNotes q tests
           page := bestEffort TestHistoryPage.template (testHistory m q c tests).bindings }

/-- The suites of the tests. -/
def ofSuites (w : Workspace) (m : Manifest) (q : Query) : Except Failure Report := do
  let c ← (criteria m q).mapError .parameter
  let page := suiteList m c (← tests w m)
  return { notes := [counted "Summarizing" page.suites.length "suites"]
           page := bestEffort SuiteListPage.template page.bindings }

/-- The first record of a source, if there is such a source. -/
def testAt? (w : Workspace) (path : Option String) : Except Failure (Option TestRecord) :=
  match path with
  | some path => Source.test w path
  | none => .ok none

/-- The subject of a file. -/
def subjectAt (w : Workspace) (path : String) : Except Failure Subject := do
  match ← RecordFormat.ofPath path with
  | .json => return .ofAcceptance (← Source.acceptance w path)
  | .csv => return .test (← Source.test w path)

/-- The details of a test. -/
def ofInfo (w : Workspace) (m : Manifest) (q : Query) : Except Failure Report := do
  let lastPass ← testAt? w m.sources.lastPass
  let lastFail ← testAt? w m.sources.lastFail
  let path ← source "test" m.sources.test
  let page := testInfo m q (← subjectAt w path) lastPass lastFail
  return { notes :=
             if page.test.isSome then []
             else [.warning ("No test found in " ++ path)]
           page := strictly TestInfoPage.template page.bindings }

/-- The list of releases. -/
def ofReleases (w : Workspace) (m : Manifest) : Except Failure Report := do
  let releases ← Source.releases w (← source "releases" m.sources.releases)
  return { notes := [counted "Listing" releases.length "releases"]
           page := strictly ReleaseListPage.template (releaseList m releases).bindings }

/-- The report of a manifest. -/
def ofManifest (w : Workspace) (m : Manifest) (q : Query) : Except Failure Report :=
  match m.report with
  | .list => ofList w m q
  | .history => ofHistory w m q
  | .info => ofInfo w m q
  | .release => ofReleases w m
  | .suites => ofSuites w m q

/-- The notes and the page of the report that a manifest and the text of a query ask for. -/
def make (w : Workspace) (m : Manifest) (query : String) :
    List LogEntry × Except Failure String :=
  let start := LogEntry.info
    ("Rendering " ++ m.report.label ++ " report '" ++ m.name ++ "'")
  match ofManifest w m ((Query.read query).withAttributes m.attributes) with
  | .error f => ([start], .error f)
  | .ok r =>
    match r.page with
    | .error f => (start :: r.notes, .error f)
    | .ok page => (start :: r.notes ++ [counted "Rendered" page.utf8ByteSize "bytes"], .ok page)

end Report

end RunReport
