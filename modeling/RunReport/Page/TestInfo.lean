import RunReport.Page.Cell
import RunReport.Page.Field

/-!
# The Details of a Test

A form with the fields of one record.

The form shows the record, and when the test last passed and last failed. For an acceptance test it
also shows who wrote it and what it covers. In input mode the fields can be edited; otherwise they
are texts, some with a link. An administrator has a link to remove the record.

## Main definitions

* `TestInfoPage`: What is shown, and in which mode.
* `TestInfoPage.setTest`, `TestInfoPage.setAcceptance`: A page with another record.
* `TestInfoPage.rows`, `TestInfoPage.deleteLink`: Its fields, and the link to remove the record.
* `TestInfoPage.render`: The page.
-/

namespace RunReport

open Template Page

/-- What is known of an acceptance test besides its execution. -/
structure Authorship where
  author : String
  testCases : List String
  stories : List String
  deriving DecidableEq

/-- One record, and how it is shown. -/
structure TestInfoPage where
  formUrl : Url
  adminUrl : Option Url := none
  capabilities : FormCapabilities := {}
  inputMode : Bool := false
  adminMode : Bool := false
  test : Option TestRecord := none
  authorship : Option Authorship := none
  lastPass : Option TestRecord := none
  lastFail : Option TestRecord := none

namespace TestInfoPage

/-- A page with another record. -/
def setTest (p : TestInfoPage) (test lastPass lastFail : Option TestRecord) : TestInfoPage :=
  { p with test, lastPass, lastFail, authorship := none }

/-- A page with an acceptance record. -/
def setAcceptance (p : TestInfoPage) (record : AcceptanceRecord)
    (lastPass lastFail : Option TestRecord) : TestInfoPage :=
  { p.setTest (some record.test) lastPass lastFail with
    authorship := some ⟨record.author, record.testCases, record.stories⟩ }

/-- A value of the record; empty if there is none. -/
def shown (p : TestInfoPage) (f : TestRecord → String) : String :=
  (p.test.map f).getD ""

/-- The fields that name the record. -/
def nameRows (p : TestInfoPage) : List FormRow :=
  [{ label := "Test ID"
     field :=
       { name := Parameter.testId
         value := p.shown fun t => idText t.id
         isHidden := true } },
    { label := "Test Name"
      field := { name := "testName", value := p.shown (·.displayName), width := 40 }
      link := p.test.map fun t => (testLink p.formUrl t).text }]

/-- The fields of an acceptance test. -/
def authorshipRows (a : Authorship) : List FormRow :=
  [{ label := "Test Author", field := { name := "author", value := a.author } },
    { label := "Test Cases"
      field := { name := "testcase", value := ", ".intercalate a.testCases } },
    { label := "Agile Stories"
      field := { name := "story", value := ", ".intercalate a.stories } }]

/-- The field that says when the test was run. -/
def dateRows (p : TestInfoPage) : List FormRow :=
  [{ label := "Run Date"
     field :=
      { name := "runDate"
        value := ((p.test.bind (·.start)).map Instant.longText).getD ""
        isDisabled := true } }]

/-- The fields that say how the test ended. -/
def statusRows (p : TestInfoPage) : List FormRow :=
  [{ label := "Status"
     field := { name := "status", value := p.shown (·.status.label), width := 40 } },
    { label := "Message", field := { name := "message", value := p.shown (·.message) } }]

/-- The field of another execution, which is linked if it is known when it started. -/
def recentRow (p : TestInfoPage) (label name : String) (recent : Option TestRecord) : FormRow :=
  let date := recent.bind fun t => t.start.map Instant.longText
  { label
    field := { name, value := date.getD "None", isDisabled := true }
    link := if date.isSome then recent.map fun t => (testLink p.formUrl t).text else none }

/-- The fields of two other executions. -/
def recentRows (p : TestInfoPage) : List FormRow :=
  [p.recentRow "Most Recently Passed" "lastPass" p.lastPass,
    p.recentRow "Most Recently Failed" "lastFail" p.lastFail]

/-- All fields of the form. -/
def rows (p : TestInfoPage) : List FormRow :=
  p.nameRows ++
  (p.authorship.map authorshipRows).getD [] ++
  (if p.capabilities.hasDates then p.dateRows else []) ++
  (if p.capabilities.hasStatus then p.statusRows else []) ++
  (if p.capabilities.hasDates then p.recentRows else [])

/-- The address that removes the record, for an administrator. -/
def deleteLink (p : TestInfoPage) : Option Url :=
  if p.capabilities.hasAdmin && p.adminMode then
    match p.test, p.adminUrl with
    | some t, some url =>
      some <| url.appendPairs
        [(Parameter.testId, idText t.id), (Parameter.mode, FormMode.delete.label)]
    | _, _ => none
  else none

/-- The value of a field in the form. -/
def valueNodes : List Node :=
  [whenTrue ["input_mode"]
    [.text "<input type=\"text\" name=\"", plain ["row", "field", "name"], .text "\" value=\"",
      escaped ["row", "field", "value"], .text "\"",
      whenAbove ["row", "field", "width"] 0
        [.text " size=\"", plain ["row", "field", "width"], .text "\""],
      whenTrue ["row", "field", "disabled"] [.text " disabled"],
      .text "/>"]
    [whenTrue ["row", "link"]
      [.text "<a href=\"", escaped ["row", "link"], .text "\">",
        escaped ["row", "field", "value"], .text "</a>"]
      [escaped ["row", "field", "value"]]]]

/-- A field that is not shown. -/
def hiddenNodes : List Node :=
  [.text "<input type=\"hidden\" name=\"", plain ["field", "name"], .text "\" value=\"",
    escaped ["field", "value"], .text "\"/>\n"]

/-- A field with its label. -/
def rowNodes : List Node :=
  [.text "  <tr>\n",
    .text "    <td width=\"30%\"><b>", plain ["row", "label"], .text ":</b></td>\n",
    .text "    <td width=\"70%\">"] ++
  valueNodes ++
  [.text "</td>\n", .text "  </tr>\n"]

/-- The page with places for the fields. -/
def template : Template :=
  ⟨[whenTrue ["input_mode"]
      [.text "<form action=\"", escaped ["form_url"], .text "\" method=\"post\">\n"],
    forEach "field" ["hidden"] hiddenNodes,
    .text "<table border=\"0\" cellspacing=\"0\" cellpadding=\"2\" width=\"100%\" ",
    .text "bgcolor=\"#FFFFFF\">\n",
    forEach "row" ["rows"] rowNodes,
    .text "</table>\n",
    whenTrue ["delete_url"]
      [.text "<a href=\"", escaped ["delete_url"], .text "\">Delete</a>\n"],
    whenTrue ["input_mode"]
      [.text "<input type=\"submit\" value=\"Update\"/>\n", .text "</form>\n"],
    .text "\n"]⟩

/-- What the names in the template are bound to. -/
def bindings (p : TestInfoPage) : Bindings :=
  let hidden := p.rows.filter (·.field.isHidden)
  let visible := p.rows.filter (!·.field.isHidden)
  [("form_url", .text p.formUrl.text), ("input_mode", .bool p.inputMode),
    ("hidden", .list (hidden.map (·.field.asValue))),
    ("rows", .list (visible.map FormRow.asValue)),
    ("delete_url", .maybe (p.deleteLink.map Url.text))]

/-- The page. -/
def render (p : TestInfoPage) : Option String :=
  template.render p.bindings

end TestInfoPage

end RunReport
