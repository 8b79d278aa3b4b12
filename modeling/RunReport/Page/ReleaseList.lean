import RunReport.Page.Cell
import RunReport.Release

/-!
# The List of Releases

A table of releases with links to the builds of each changelist.

A release links to all its builds, and each group of builds to the builds of its changelist. The
builds of a retired release are hidden until they are asked for.

## Main definitions

* `ReleaseListPage`: The releases, and how their versions are written.
* `ReleaseListPage.releaseLink`, `ReleaseListPage.groupLink`: The addresses of builds.
* `ReleaseListPage.render`: The page.
-/

namespace RunReport

open Template Page

/-- Releases, and how they are shown. Builds are searched at the address of the page unless there
    is one for summaries. -/
structure ReleaseListPage where
  formUrl : Url
  summaryUrl : Option Url := none
  format : VersionFormat := default
  releases : List Release

namespace ReleaseListPage

/-- An address with parameters written behind it. -/
def search (base : Url) (pairs : List (String × String)) : String :=
  base.text ++ "?" ++ "&".intercalate (pairs.map fun (name, value) =>
    name ++ "=" ++ FormEncoding.encode value)

/-- The address of all builds of a release. -/
def releaseLink (p : ReleaseListPage) (r : Release) : String :=
  search p.formUrl [(Parameter.buildVersion, r.version)]

/-- The address of the builds of a changelist. -/
def groupLink (p : ReleaseListPage) (g : ChangelistGroup) : String :=
  search (p.summaryUrl.getD p.formUrl)
    [(Parameter.buildVersion, "%" ++ p.format.number g.head.version ++ "%"),
      (Parameter.changelistOp, "eq"), (Parameter.changelist, g.changelist.getD "")]

/-- What a group of builds is called. -/
def groupLabel (p : ReleaseListPage) (g : ChangelistGroup) : String :=
  p.format.number g.head.version ++ " " ++ g.head.releaseId

/-- A group of builds as a template sees it. -/
def groupValue (p : ReleaseListPage) (r : Release) (g : ChangelistGroup) : Value :=
  .object [
    ("url", .text (p.groupLink g)), ("label", .text (p.groupLabel g)),
    ("version", .maybe (g.changelist.bind fun c => r.versionOf c p.format))]

/-- A release as a template sees it. -/
def releaseValue (p : ReleaseListPage) (r : Release) : Value :=
  .object [
    ("id", .text r.id), ("name", .text r.name), ("text", .text r.text),
    ("url", .text (p.releaseLink r)), ("retired", .bool r.isRetired),
    ("groups", .list (r.changelistGroups.map (p.groupValue r)))]

/-- The link of a group of builds. -/
def groupNodes : List Node :=
  [.text "<a href=\"", escaped ["group", "url"], .text "\"",
    whenTrue ["group", "version"]
      [.text " title=\"", escaped ["group", "version"], .text "\""],
    .text ">", escaped ["group", "label"], .text "</a><br/>\n"]

/-- The two rows of a release: what it is, and its builds. -/
def releaseNodes : List Node :=
  [.text "<tr>\n",
    .text "  <td valign=\"top\" rowspan=\"2\">\n",
    .text "    <a href=\"", escaped ["release", "url"], .text "\">",
    escaped ["release", "name"], .text "</a>\n",
    .text "  </td>\n",
    .text "  <td valign=\"top\">", escaped ["release", "text"],
    whenTrue ["release", "retired"]
      [.text " (<a href=\"javascript:void\" onclick=\"toggleElement('",
        escaped ["release", "id"], .text "'); return false;\">view builds</a>)"],
    .text "</td>\n",
    .text "</tr>\n",
    .text "<tr>\n",
    .text "  <td valign=\"top\">\n",
    .text "      <div id=\"", escaped ["release", "id"], .text "\"",
    whenTrue ["release", "retired"] [.text " style=\"display: none\""], .text ">\n",
    forEach "group" ["release", "groups"] groupNodes,
    .text "      </div>\n",
    .text "  </td>\n",
    .text "</tr>\n"]

/-- The page with places for the releases. -/
def template : Template :=
  ⟨[.text "<table border=\"0\" cellspacing=\"2\" cellpadding=\"2\" width=\"100%\">\n",
    forEach "release" ["releases"] releaseNodes,
    .text "</table>\n"]⟩

/-- What the names in the template are bound to. -/
def bindings (p : ReleaseListPage) : Bindings :=
  [("releases", .list (p.releases.map p.releaseValue))]

/-- The page. -/
def render (p : ReleaseListPage) : Option String :=
  template.render p.bindings

end ReleaseListPage

end RunReport
