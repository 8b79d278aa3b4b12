import RunReport.Proofs.ChangelistRuns
import RunReport.Proofs.PageAttributes
import RunReport.Proofs.ScriptText

/-!
# The Toggle of a Retired Release

Which element the link of a retired release shows and hides.

The builds of a retired release are hidden, and a link next to its text shows them. The two know of
each other by the id of the release. It stands in the page twice, as the id of the element with the
builds and as a text in the script of the link, and both are attributes of the page.

`attributes_page` reads the attributes of a page. An id is escaped in both places, so no id ends an
attribute early, whatever it is, and what a browser has for the two attributes is the id itself and
`handler`, a call with the id between quotes. What it takes the call for is a question of the
script, and there the id has not been escaped. `addresses_iff` is the answer: the call has the id as
its text if there is no quote, backslash or line break in it, and for no other id.

## Main definitions

* `ReleaseListPage.releaseText`: What is written for a release.
* `ReleaseListPage.releaseAttributes`: The attributes that a release has in a page.
* `ReleaseListPage.handler`: The script of the link that shows and hides an element.
* `ReleaseListPage.Addresses`: A script shows and hides the element of an id.

## Theorems

* `render_release`, `render_page`: What is written for a release and for a page.
* `scans_link`, `scans_div`, `scans_toggle`, `scans_release`, `attributes_page`: The attributes of a
  page.
* `onclick_page`, `id_page`: The scripts and the ids of a page, as a browser has them.
* `addresses_iff`: When the script of an id addresses the element of that id.
* `toggles_own_builds`: Which elements the links of a page show and hide.
* `toggle_broken`: An id with a quote in it.
-/

namespace RunReport

open Template Page Markup

namespace ReleaseListPage

variable (p : ReleaseListPage) (r : Release)

/-! ### What is written -/

/-- What is written in front of the address of a release. -/
def startText : String :=
  "<tr>\n  <td valign=\"top\" rowspan=\"2\">\n    <a href=\""

/-- What is written between the name of a release and its text. -/
def afterName : String :=
  "</a>\n  </td>\n  <td valign=\"top\">"

/-- What is written between the text of a release and its builds. -/
def betweenRows : String :=
  "</td>\n</tr>\n<tr>\n  <td valign=\"top\">\n"

/-- What is written behind the builds of a release. -/
def endText : String :=
  "  </td>\n</tr>\n"

/-- The link that shows and hides the builds of a release, if it is retired. -/
def toggleText : String :=
  if r.isRetired then
    String.join [" (<a href=\"javascript:void\" onclick=\"toggleElement('", Markup.escape r.id,
      "'); return false;\">view builds</a>)"]
  else ""

/-- What is written for a release. -/
def releaseText : String :=
  String.join [startText, Markup.escape (p.releaseLink r), "\">", Markup.escape r.name, afterName,
    Markup.escape r.text, toggleText r, betweenRows, p.divText r, endText]

/-- What is written in front of the releases. -/
def tableStart : String :=
  "<table border=\"0\" cellspacing=\"2\" cellpadding=\"2\" width=\"100%\">\n"

/-- What is written for a page. -/
def pageText : String :=
  String.join [tableStart, String.join (p.releases.map p.releaseText), "</table>\n"]

theorem render_toggle (env : Bindings) :
    (whenTrue ["release", "retired"]
      [.text " (<a href=\"javascript:void\" onclick=\"toggleElement('",
        escaped ["release", "id"], .text "'); return false;\">view builds</a>)"]).render
      (("release", p.releaseValue r) :: env) = some (toggleText r) := by
  refine render_whenFlag _ _ _ _ r.isRetired _ _ rfl (renderNodes_of_writes _ _ _ ?_)
    (by rw [renderNodes])
  simp only [writes_cons, writes_nil, render_text, true_and, and_true]
  exact render_escaped _ _ _ rfl

theorem render_release (env : Bindings) :
    renderNodes (("release", p.releaseValue r) :: env) releaseNodes = some (p.releaseText r) := by
  have hsplit : releaseNodes = releaseNodes.take 15 ++ divNodes ++ releaseNodes.drop 22 := rfl
  have hfront : renderNodes (("release", p.releaseValue r) :: env) (releaseNodes.take 15)
      = some (String.join ["<tr>\n", "  <td valign=\"top\" rowspan=\"2\">\n", "    <a href=\"",
          Markup.escape (p.releaseLink r), "\">", Markup.escape r.name, "</a>\n", "  </td>\n",
          "  <td valign=\"top\">", Markup.escape r.text, toggleText r, "</td>\n", "</tr>\n",
          "<tr>\n", "  <td valign=\"top\">\n"]) := by
    refine renderNodes_of_writes _ _ _ ?_
    simp only [releaseNodes, List.take_succ_cons, List.take_zero, writes_cons, writes_nil,
      render_text, true_and, and_true]
    exact ⟨render_escaped _ _ _ rfl, render_escaped _ _ _ rfl, render_escaped _ _ _ rfl,
      p.render_toggle r env⟩
  have hback : renderNodes (("release", p.releaseValue r) :: env) (releaseNodes.drop 22)
      = some (String.join ["  </td>\n", "</tr>\n"]) := by
    refine renderNodes_of_writes _ _ _ ?_
    simp only [releaseNodes, List.drop_succ_cons, List.drop_zero, writes_cons, writes_nil,
      render_text, and_true]
  rw [hsplit, renderNodes_of_append _ _ _ _ _
    (renderNodes_of_append _ _ _ _ _ hfront (p.render_div r env)) hback]
  -- The texts of the nodes between two values make one text.
  have hstart : startText
      = "<tr>\n" ++ "  <td valign=\"top\" rowspan=\"2\">\n" ++ "    <a href=\"" := rfl
  have hafter : afterName = "</a>\n" ++ "  </td>\n" ++ "  <td valign=\"top\">" := rfl
  have hrows : betweenRows = "</td>\n" ++ "</tr>\n" ++ "<tr>\n" ++ "  <td valign=\"top\">\n" := rfl
  have hend : endText = "  </td>\n" ++ "</tr>\n" := rfl
  simp only [releaseText, hstart, hafter, hrows, hend, String.join_cons, String.join_nil,
    String.append_assoc, String.append_empty]

theorem render_page : p.render = some p.pageText := by
  have hloop := render_forEach p.bindings "release" ["releases"] releaseNodes p.releases
    p.releaseValue p.releaseText rfl fun r _ => p.render_release r p.bindings
  refine renderNodes_of_writes _ _ _ ?_
  simp only [template, tableStart, writes_cons, writes_nil, render_text, true_and, and_true]
  exact hloop

/-! ### The attributes of a page -/

/-- The script of the link that shows and hides the element of an id. -/
def handler (id : String) : String :=
  "toggleElement('" ++ id ++ "'); return false;"

theorem handler_eq (id : String) :
    handler id = "toggleElement('" ++ id ++ "'); return false;" :=
  rfl

/-- The attributes of the link of a group. -/
def linkAttributes (g : ChangelistGroup) : List (String × String) :=
  ("href", Markup.escape (p.groupLink g)) ::
    (p.titleOf r g).toList.map fun v => ("title", Markup.escape v)

/-- The attributes of the element with the builds of a release. -/
def divAttributes : List (String × String) :=
  ("id", Markup.escape r.id) :: (if r.isRetired then [("style", "display: none")] else []) ++
    r.changelistGroups.flatMap (p.linkAttributes r)

/-- The attributes of the link that shows and hides the builds of a release. -/
def toggleAttributes : List (String × String) :=
  if r.isRetired then
    [("href", "javascript:void"), ("onclick", handler (Markup.escape r.id))]
  else []

/-- The attributes of the table around the releases. -/
def tableAttributes : List (String × String) :=
  [("border", "0"), ("cellspacing", "2"), ("cellpadding", "2"), ("width", "100%")]

/-- The attributes that a release has in a page. -/
def releaseAttributes : List (String × String) :=
  [("valign", "top"), ("rowspan", "2"), ("href", Markup.escape (p.releaseLink r)),
    ("valign", "top")] ++ toggleAttributes r ++ [("valign", "top")] ++ p.divAttributes r

/-- The end of a tag leads back to the text of the page. -/
theorem scans_tagEnd : Scans (.tag []) ">" [] .text :=
  rfl

theorem scans_title (title : Option String) :
    Scans (.tag []) (titleText title) (title.toList.map fun v => ("title", Markup.escape v))
      (.tag []) := by
  cases title with
  | none => exact scans_empty (.tag [])
  | some v =>
      have hstart : Scans (.tag []) " title=\"" [] (.value "title".toList []) :=
        scans_ofList _ _ _ _ rfl
      have h := scans_escaped "title" v " title=\"" hstart (scans_empty _)
      simpa only [titleText, Option.elim_some, Option.toList_some, List.map_cons, List.map_nil,
        String.join_cons, String.join_nil, String.append_assoc, String.append_empty,
        List.nil_append] using h

theorem scans_link (g : ChangelistGroup) :
    Scans .text (p.linkText r g) (p.linkAttributes r g) .text := by
  have hstart : Scans .text "<a href=\"" [] (.value "href".toList []) :=
    scans_ofList _ _ _ _ rfl
  have hlabel := scans_inert _ (inert_escape (p.groupLabel g))
  have hend : Scans .text "</a><br/>\n" [] .text := scans_ofList _ _ _ _ rfl
  have htitle := (scans_title (p.titleOf r g)).append scans_tagEnd
  have h := scans_escaped "href" (p.groupLink g) _ hstart ((htitle.append hlabel).append hend)
  simpa only [linkText, linkAttributes, String.join_cons, String.join_nil, String.append_assoc,
    String.append_empty, List.nil_append, List.append_nil] using h

theorem scans_div : Scans .text (p.divText r) (p.divAttributes r) .text := by
  have hstart : Scans .text "      <div id=\"" [] (.value "id".toList []) :=
    scans_ofList _ _ _ _ rfl
  have hstyle : Scans (.tag []) (if r.isRetired then " style=\"display: none\"" else "")
      (if r.isRetired then [("style", "display: none")] else []) (.tag []) := by
    by_cases h : r.isRetired
    · rw [if_pos h, if_pos h]
      exact scans_ofList _ _ _ _ rfl
    · rw [if_neg h, if_neg h]
      exact scans_empty (.tag [])
  have hopen : Scans (.tag []) ">\n" [] .text := rfl
  have hlinks := scans_join (p.linkText r) (p.linkAttributes r) r.changelistGroups
    fun g _ => p.scans_link r g
  have hend : Scans .text "      </div>\n" [] .text := scans_ofList _ _ _ _ rfl
  have htail := ((hstyle.append hopen).append hlinks).append hend
  have h := scans_escaped "id" r.id _ hstart htail
  simpa only [divText, divAttributes, String.join_cons, String.join_nil, String.append_assoc,
    String.append_empty, List.nil_append, List.append_nil, List.cons_append] using h

theorem scans_toggle : Scans .text (toggleText r) (toggleAttributes r) .text := by
  unfold toggleText toggleAttributes
  by_cases h : r.isRetired
  · rw [if_pos h, if_pos h]
    -- The id is a part of the value of `onclick`, and the script goes on behind it.
    have hstart : Scans .text " (<a href=\"javascript:void\" onclick=\"toggleElement('"
        [("href", "javascript:void")] (.value "onclick".toList "toggleElement('".toList) :=
      scans_ofList _ _ _ _ rfl
    have hend : Scans (.tag []) ">view builds</a>)" [] .text := scans_ofList _ _ _ _ rfl
    have hclose : "'); return false;\">view builds</a>)"
        = "'); return false;" ++ "\"" ++ ">view builds</a>)" := rfl
    have hrest : '"' ∉ "'); return false;".toList := by
      rw [String.toList_ofList]
      decide
    have h := scans_attribute "onclick" _ r.id "'); return false;" _ hstart hrest hend
    simpa only [hclose, handler_eq, String.join_cons, String.join_nil, String.append_assoc,
      String.append_empty, List.singleton_append] using h
  · rw [if_neg h, if_neg h]
    exact scans_empty .text

theorem scans_release : Scans .text (p.releaseText r) (p.releaseAttributes r) .text := by
  have hstart : Scans .text startText [("valign", "top"), ("rowspan", "2")]
      (.value "href".toList []) := scans_ofList _ _ _ _ rfl
  have hname := scans_inert _ (inert_escape r.name)
  have htext := scans_inert _ (inert_escape r.text)
  have hafter : Scans .text afterName [("valign", "top")] .text := scans_ofList _ _ _ _ rfl
  have hrows : Scans .text betweenRows [("valign", "top")] .text := scans_ofList _ _ _ _ rfl
  have hend : Scans .text endText [] .text := scans_ofList _ _ _ _ rfl
  have htop := ((scans_tagEnd.append hname).append hafter).append htext
  have hlink := (htop.append (scans_toggle r)).append hrows
  have htail := (hlink.append (p.scans_div r)).append hend
  have h := scans_escaped "href" (p.releaseLink r) _ hstart htail
  have hclose : "\">" = "\"" ++ ">" := rfl
  simpa only [releaseText, hclose, releaseAttributes, String.join_cons, String.join_nil,
    String.append_assoc, String.append_empty, List.nil_append, List.append_nil, List.append_assoc,
    List.cons_append] using h

/-- The attributes of a page are those of its table and of its releases. -/
theorem attributes_page :
    attributes p.pageText = tableAttributes ++ p.releases.flatMap p.releaseAttributes := by
  have hstart : Scans .text tableStart tableAttributes .text := scans_ofList _ _ _ _ rfl
  have hreleases := scans_join p.releaseText p.releaseAttributes p.releases
    fun r _ => p.scans_release r
  have hend : Scans .text "</table>\n" [] .text := scans_ofList _ _ _ _ rfl
  have hpage := (hstart.append hreleases).append hend
  have htext : tableStart ++ String.join (p.releases.map p.releaseText) ++ "</table>\n"
      = p.pageText := by
    simp only [pageText, String.join_cons, String.join_nil, String.append_assoc,
      String.append_empty]
  rw [htext, List.append_nil] at hpage
  exact congrArg Prod.snd hpage

/-! ### Values as a browser has them -/

/-- What a browser has for an escaped id. -/
theorem unescape_id (id : String) : unescape (Markup.escape id) = id := by
  have h := unescape_escape "" id "" List.not_mem_nil List.not_mem_nil
  rwa [String.empty_append, String.append_empty, String.empty_append, String.append_empty] at h

/-- What a browser has for the script of an escaped id. -/
theorem unescape_handler (id : String) : unescape (handler (Markup.escape id)) = handler id := by
  refine unescape_escape _ id _ ?_ ?_
  · rw [String.toList_ofList]
    decide
  · rw [String.toList_ofList]
    decide

/-- Links of builds have no other attributes than these two. -/
theorem valuesOf_links (name : String) (hhref : name ≠ "href") (htitle : name ≠ "title") :
    valuesOf name (r.changelistGroups.flatMap (p.linkAttributes r)) = [] := by
  have hlink : ∀ g, valuesOf name (p.linkAttributes r g) = [] := by
    intro g
    unfold linkAttributes
    cases p.titleOf r g with
    | none => simp [valuesOf, hhref.symm]
    | some v => simp [valuesOf, hhref.symm, htitle.symm]
  rw [valuesOf_flatMap]
  exact List.flatMap_eq_nil_iff.mpr fun g _ => hlink g

/-- The id of the element with the builds of a release. -/
theorem id_div : (valuesOf "id" (p.divAttributes r)).map unescape = [r.id] := by
  rw [divAttributes, valuesOf_append, p.valuesOf_links r "id" (by decide) (by decide),
    List.append_nil]
  by_cases h : r.isRetired
  · simp [h, valuesOf, unescape_id]
  · simp [h, valuesOf, unescape_id]

/-- The script of the link of a release, if it is retired. -/
theorem onclick_release :
    (valuesOf "onclick" (p.releaseAttributes r)).map unescape
      = if r.isRetired then [handler r.id] else [] := by
  have hdiv : valuesOf "onclick" (p.divAttributes r) = [] := by
    rw [divAttributes, valuesOf_append, p.valuesOf_links r "onclick" (by decide) (by decide)]
    by_cases h : r.isRetired
    · simp [h, valuesOf]
    · simp [h, valuesOf]
  rw [releaseAttributes, valuesOf_append, hdiv]
  by_cases h : r.isRetired
  · simp [h, toggleAttributes, valuesOf, unescape_handler]
  · simp [h, toggleAttributes, valuesOf]

/-- No other element of a release has an id. -/
theorem id_release : (valuesOf "id" (p.releaseAttributes r)).map unescape = [r.id] := by
  have hother : valuesOf "id" ([("valign", "top"), ("rowspan", "2"),
      ("href", Markup.escape (p.releaseLink r)), ("valign", "top")] ++ toggleAttributes r ++
      [("valign", "top")]) = [] := by
    by_cases h : r.isRetired
    · simp [h, toggleAttributes, valuesOf]
    · simp [h, toggleAttributes, valuesOf]
  rw [releaseAttributes, valuesOf_append, hother, List.nil_append, id_div]

/-- An attribute that the table does not have is in a page for its releases only. -/
theorem valuesOf_page (name : String) (htable : valuesOf name tableAttributes = []) :
    (valuesOf name (attributes p.pageText)).map unescape =
      p.releases.flatMap fun r => (valuesOf name (p.releaseAttributes r)).map unescape := by
  rw [attributes_page, valuesOf_append, htable, List.nil_append, valuesOf_flatMap,
    List.map_flatMap]

/-- The scripts of a page are those of its retired releases. -/
theorem onclick_page :
    (valuesOf "onclick" (attributes p.pageText)).map unescape
      = (p.releases.filter (·.isRetired)).map fun r => handler r.id := by
  rw [p.valuesOf_page "onclick" (by decide)]
  induction p.releases with
  | nil => rfl
  | cons r rs ih =>
      rw [List.flatMap_cons, onclick_release, ih]
      by_cases h : r.isRetired
      · rw [if_pos h, List.filter_cons_of_pos h, List.map_cons, List.singleton_append]
      · rw [if_neg h, List.filter_cons_of_neg h, List.nil_append]

/-- The ids of a page are those of its releases. -/
theorem id_page :
    (valuesOf "id" (attributes p.pageText)).map unescape = p.releases.map Release.id := by
  rw [p.valuesOf_page "id" (by decide)]
  simp only [id_release]
  exact List.map_eq_flatMap.symm

/-! ### What a script addresses -/

/-- A script shows and hides the element of an id: it is a call with a text between quotes, and the
    text stands for the id. -/
def Addresses (code id : String) : Prop :=
  ∃ body : List Char, code = handler (String.ofList body) ∧
    Script.Denotes body (Script.units id.toList)

theorem handler_inj (a b : String) : handler a = handler b ↔ a = b := by
  simp only [handler_eq, String.append_left_inj, String.append_right_inj]

/-- The script that is made for an id addresses what the id stands for between quotes. -/
theorem addresses_handler_iff (id other : String) :
    Addresses (handler id) other ↔ Script.Denotes id.toList (Script.units other.toList) := by
  constructor
  · rintro ⟨body, hcode, hdenotes⟩
    rw [(handler_inj _ _).mp hcode, String.toList_ofList]
    exact hdenotes
  · exact fun h => ⟨id.toList, by rw [String.ofList_toList], h⟩

/-- The script that is made for an id addresses the element of that id if there is no quote,
    backslash or line break in it, and then it addresses no other. -/
theorem addresses_iff (id : String) :
    (Addresses (handler id) id ↔ Script.Plain id.toList) ∧
    (Script.Plain id.toList → ∀ other, Addresses (handler id) other → other = id) := by
  refine ⟨?_, fun hplain other h => ?_⟩
  · rw [addresses_handler_iff, Script.denotes_self_iff]
  · rw [addresses_handler_iff, Script.denotes_plain_iff _ _ hplain] at h
    exact String.toList_injective (Script.units_inj _ _ h)

/-- A page has the element of each release, and a link for it if the release is retired, in one row.
    A browser has the ids of the releases for the ids of these elements, and for the scripts of the
    links calls with these ids between quotes. They are calls for the elements as long as no id has
    a quote, a backslash or a line break in it, and then each link is for its own element only. An
    id with one of these is never addressed by its link. -/
theorem toggles_own_builds (p : ReleaseListPage) :
    ∃ html, p.render = some html ∧
      (valuesOf "onclick" (attributes html)).map unescape
        = (p.releases.filter (·.isRetired)).map (fun r => handler r.id) ∧
      (valuesOf "id" (attributes html)).map unescape = p.releases.map Release.id ∧
      ∀ r ∈ p.releases,
        Contains html (p.releaseText r) ∧ Contains (p.releaseText r) (p.divText r) ∧
        (valuesOf "onclick" (attributes (p.releaseText r))).map unescape
          = (if r.isRetired then [handler r.id] else []) ∧
        (valuesOf "id" (attributes (p.divText r))).map unescape = [r.id] ∧
        (Addresses (handler r.id) r.id ↔
          ∀ c ∈ r.id.toList, c ≠ '\'' ∧ c ≠ '\\' ∧ c ≠ '\n' ∧ c ≠ '\r') ∧
        (Addresses (handler r.id) r.id →
          ∀ other, Addresses (handler r.id) other → other = r.id) := by
  refine ⟨p.pageText, p.render_page, p.onclick_page, p.id_page, fun r hr => ?_⟩
  have hrelease : attributes (p.releaseText r) = p.releaseAttributes r :=
    congrArg Prod.snd (p.scans_release r)
  have hdiv : attributes (p.divText r) = p.divAttributes r := congrArg Prod.snd (p.scans_div r)
  have hplain : Script.Plain r.id.toList ↔
      ∀ c ∈ r.id.toList, c ≠ '\'' ∧ c ≠ '\\' ∧ c ≠ '\n' ∧ c ≠ '\r' := by
    simp only [Script.Plain, Script.stops, List.mem_cons, List.not_mem_nil, or_false, not_or,
      ne_eq]
  -- What a literal means is known of its characters, and the page only has to show that literal.
  rcases addresses_iff r.id with ⟨hself, honly⟩
  refine ⟨?_, ?_, ?_, ?_, hself.trans hplain, fun h => honly (hself.mp h)⟩
  · refine (contains_join _ _ ?_).trans _ _ _ (contains_join _ _ (List.mem_map_of_mem hr))
    exact List.mem_cons_of_mem _ List.mem_cons_self
  · refine contains_join _ _ ?_
    simp only [List.mem_cons, true_or, or_true]
  · rw [hrelease, onclick_release]
  · rw [hdiv, id_div]

/-- Two retired releases with ids that a script does not take as they are. The link of the first has
    a quote too many and addresses nothing that has its id. The link of the second addresses the
    element of another id. -/
theorem toggle_broken :
    let quoted : Release := { id := "it's", name := "Winter", version := "5.2-%"
                              status := .retired }
    let escaped : Release := { id := "a\\x62", name := "Spring", version := "5.3-%"
                               status := .retired }
    let p : ReleaseListPage := { formUrl := { scheme := "http", path := "/r" }
                                 releases := [quoted, escaped] }
    (∃ html, p.render = some html ∧
      (valuesOf "onclick" (attributes html)).map unescape
        = ["toggleElement('it's'); return false;", "toggleElement('a\\x62'); return false;"] ∧
      (valuesOf "id" (attributes html)).map unescape = ["it's", "a\\x62"]) ∧
    ¬ Addresses "toggleElement('it's'); return false;" "it's" ∧
    ¬ Addresses "toggleElement('a\\x62'); return false;" "a\\x62" ∧
    Addresses "toggleElement('a\\x62'); return false;" "ab" := by
  intro quoted escaped p
  -- The handlers are stated as plain texts, so each is first recognized as that of its release.
  have hread : ∀ code id other, code = handler id →
      (Addresses code other ↔ Script.Denotes id.toList (Script.units other.toList)) := by
    rintro _ id other rfl
    exact addresses_handler_iff id other
  have hquoted : "toggleElement('it's'); return false;" = handler "it's" := rfl
  have hescaped : "toggleElement('a\\x62'); return false;" = handler "a\\x62" := rfl
  refine ⟨⟨p.pageText, p.render_page, p.onclick_page, p.id_page⟩, ?_, ?_, ?_⟩
  · rw [hread _ _ _ hquoted, Script.denotes_self_iff]
    decide +kernel
  · rw [hread _ _ _ hescaped, Script.denotes_self_iff]
    decide +kernel
  · have hdigits : ∀ d ∈ ['6', '2'], d ∈ Script.hexadecimals := by
      intro d hd
      rcases List.mem_pair.mp hd with rfl | rfl <;> decide +kernel
    have hbyte : Script.Escape [] ['x', '6', '2'] [98] := .byte ['6', '2'] hdigits rfl
    exact (hread _ _ _ hescaped).mpr
      (.char 'a' _ [98] (by decide) (.escape ['x', '6', '2'] [] [98] [] hbyte .nil))

end ReleaseListPage

end RunReport
