import Mathlib.Data.List.Nodup
import RunReport.Proofs.NodeText
import RunReport.Proofs.PageTags

/-!
# Settings of the Details Page

What a page with the details of a test shows after it was set up again and again.

There are five ways to set a page up. Two of them put a record in, and each of the others sets one
thing. A step says nothing about what the others set, so it forgets an earlier step of the same part
and nothing else: steps of one part overwrite each other (`apply_of_same`), and steps of different
parts can change places (`apply_comm`). The last step of each part is therefore all that is left of
a run, in whatever order these steps are taken (`run_last`, `run_perm`).

The two steps that put a record in are of one part. That is the point of the whole: an acceptance
record has an author, test cases and stories, a plain record has none, and a page that was given a
plain record after an acceptance record has to lose them. What the page holds is what the last of
these steps brought (`values_run`), and the rows of its table are made from nothing else. What they
say is spelled out from the records (`acceptanceLines`, `recentLine`, `Shows`).

## Main definitions

* `TestInfoPage.Step`, `TestInfoPage.Part`: A way to set a page up, and the part that it sets.
* `TestInfoPage.run`: A page after some steps.
* `TestInfoPage.lastOf`, `TestInfoPage.latest`: The last step of a part, and of each part.
* `TestInfoPage.Values`: The records of a page.
* `TestInfoPage.acceptanceLines`, `TestInfoPage.recentLine`: The rows that records should have.
* `TestInfoPage.Shows`: The rows of a page are those of some records.
* `TestInfoPage.rowText`, `TestInfoPage.tableText`: A row and the table of a page as texts.

## Theorems

* `apply_of_same`, `apply_comm`: A step after another.
* `run_last`, `run_perm`: What is left of a run.
* `values_apply`, `values_run`: The records of a page.
* `recentRow_eq_recentLine`: The row of another execution is the one that it should have.
* `shows_values`, `Shows.exists_authorship`: The rows of a page.
* `contains_tableText`: A page has its table.
* `run_latest`: A page shows its last records, and no others.
* `run_latest_twice`: A plain record after an acceptance record, and the other way about.
-/

namespace RunReport

open Template

namespace TestInfoPage

/-! ### Steps -/

/-- A step that sets a page up. -/
inductive Step
  | values (test lastPass lastFail : Option TestRecord)
  | acceptance (record : AcceptanceRecord) (lastPass lastFail : Option TestRecord)
  | capabilities (capabilities : FormCapabilities)
  | inputMode (enabled : Bool)
  | adminMode (enabled : Bool)

/-- A page after a step. -/
def apply (p : TestInfoPage) : Step → TestInfoPage
  | .values test lastPass lastFail => p.setTest test lastPass lastFail
  | .acceptance record lastPass lastFail => p.setAcceptance record lastPass lastFail
  | .capabilities capabilities => { p with capabilities }
  | .inputMode inputMode => { p with inputMode }
  | .adminMode adminMode => { p with adminMode }

/-- A page after some steps. -/
def run (p : TestInfoPage) (steps : List Step) : TestInfoPage :=
  steps.foldl apply p

/-- The parts of a page that steps set. -/
inductive Part
  | records
  | capabilities
  | inputMode
  | adminMode
  deriving DecidableEq

/-- The part that a step sets. Both kinds of records are of the same part. -/
def Step.part : Step → Part
  | .values _ _ _ => .records
  | .acceptance _ _ _ => .records
  | .capabilities _ => .capabilities
  | .inputMode _ => .inputMode
  | .adminMode _ => .adminMode

/-- The last of some steps that sets a part. -/
def lastOf (steps : List Step) (part : Part) : Option Step :=
  (steps.filter (·.part = part)).getLast?

/-- The last of some steps for each part. -/
def latest (steps : List Step) : List Step :=
  [Part.records, .capabilities, .inputMode, .adminMode].filterMap (lastOf steps)

section Step

variable (p : TestInfoPage) (s t : Step)

/-- A step leaves nothing of an earlier one of the same part. -/
theorem apply_of_same (h : s.part = t.part) : (p.apply s).apply t = p.apply t := by
  -- Whichever of the two ways the records came, both ways set the same four fields.
  cases s <;> cases t <;> first | rfl | cases h

/-- Steps of different parts can change places. -/
theorem apply_comm (h : s.part ≠ t.part) : (p.apply s).apply t = (p.apply t).apply s := by
  cases s <;> cases t <;> first | rfl | exact absurd rfl h

/-- A step can go before steps of other parts. -/
theorem run_apply_comm (steps : List Step) (h : ∀ u ∈ steps, u.part ≠ s.part) :
    (p.run steps).apply s = (p.apply s).run steps := by
  induction steps generalizing p with
  | nil => rfl
  | cons u steps ih =>
      rcases List.forall_mem_cons.mp h with ⟨hu, hsteps⟩
      rw [run, run, List.foldl_cons, List.foldl_cons, ← p.apply_comm u s hu]
      exact ih (p.apply u) hsteps

/-! ### The last steps -/

theorem part_of_lastOf (steps : List Step) (part : Part) (h : lastOf steps part = some s) :
    s.part = part :=
  of_decide_eq_true (List.mem_filter.mp (List.mem_of_getLast? h)).2

/-- One more step is the last of its part. -/
theorem lastOf_append_self (steps : List Step) : lastOf (steps ++ [s]) s.part = some s := by
  rw [lastOf, List.filter_append, List.filter_cons, if_pos (decide_eq_true rfl), List.filter_nil,
    List.getLast?_concat]

/-- One more step is not the last of any other part. -/
theorem lastOf_append_of_ne (steps : List Step) (part : Part) (h : s.part ≠ part) :
    lastOf (steps ++ [s]) part = lastOf steps part := by
  have hother : ¬ decide (s.part = part) = true := fun hpart => h (of_decide_eq_true hpart)
  rw [lastOf, List.filter_append, List.filter_cons, if_neg hother, List.filter_nil, List.append_nil,
    lastOf]

/-- One more step takes the place of the last one of its part, wherever that stands among the last
    ones of other parts. -/
theorem run_append_last (steps : List Step) (parts : List Part) (hnodup : parts.Nodup)
    (hmem : s.part ∈ parts) :
    (p.run (parts.filterMap (lastOf steps))).apply s
      = p.run (parts.filterMap (lastOf (steps ++ [s]))) := by
  induction parts generalizing p with
  | nil => exact absurd hmem List.not_mem_nil
  | cons part parts ih =>
      rcases List.nodup_cons.mp hnodup with ⟨hnot, hnodup⟩
      by_cases hpart : s.part = part
      · -- The other parts keep their last steps, and the step goes before all of these.
        have hothers : ∀ q ∈ parts, s.part ≠ q := fun q hq heq => hnot (hpart ▸ heq ▸ hq)
        have hsame : parts.filterMap (lastOf (steps ++ [s])) = parts.filterMap (lastOf steps) :=
          List.filterMap_congr fun q hq => lastOf_append_of_ne s steps q (hothers q hq)
        have hdiffer : ∀ u ∈ parts.filterMap (lastOf steps), u.part ≠ s.part := by
          intro u hu
          rcases List.mem_filterMap.mp hu with ⟨q, hq, hlast⟩
          rw [part_of_lastOf u steps q hlast]
          exact (hothers q hq).symm
        rw [← hpart, List.filterMap_cons_some (lastOf_append_self s steps), hsame]
        cases hlast : lastOf steps s.part with
        | none =>
            rw [List.filterMap_cons_none hlast]
            exact p.run_apply_comm s _ hdiffer
        | some t =>
            rw [List.filterMap_cons_some hlast]
            refine ((p.apply t).run_apply_comm s _ hdiffer).trans ?_
            rw [p.apply_of_same t s (part_of_lastOf t steps _ hlast)]
            rfl
      · -- The last step of this part stays, and the place is further on.
        have hlater : s.part ∈ parts := (List.mem_cons.mp hmem).resolve_left hpart
        have hkept := lastOf_append_of_ne s steps part hpart
        cases hlast : lastOf steps part with
        | none =>
            rw [List.filterMap_cons_none hlast, List.filterMap_cons_none (hkept.trans hlast)]
            exact ih p hnodup hlater
        | some t =>
            rw [List.filterMap_cons_some hlast, List.filterMap_cons_some (hkept.trans hlast)]
            exact ih (p.apply t) hnodup hlater

end Step

section Run

variable (p : TestInfoPage) (steps : List Step)

/-- The last step of each part is all that is left of a run, by induction at its end. -/
theorem run_last : p.run steps = p.run (latest steps) := by
  induction steps using List.reverseRecOn with
  | nil => rfl
  | append_singleton steps s ih =>
      have hmem : s.part ∈ [Part.records, .capabilities, .inputMode, .adminMode] := by
        cases s.part <;> decide
      rw [run, List.foldl_append, List.foldl_cons, List.foldl_nil, ← run, ih]
      exact p.run_append_last s steps _ (by decide) hmem

/-- The last steps are of different parts. -/
theorem nodup_latest : ((latest steps).map Step.part).Nodup := by
  have hparts : [Part.records, .capabilities, .inputMode, .adminMode].Nodup := by decide
  refine List.pairwise_map.mpr (List.pairwise_filterMap.mpr (hparts.imp fun hne s hs t ht => ?_))
  rw [part_of_lastOf s steps _ hs, part_of_lastOf t steps _ ht]
  exact hne

/-- The last steps can be taken in any order. -/
theorem run_perm (steps' : List Step) (h : steps'.Perm (latest steps)) :
    p.run steps' = p.run steps := by
  have hnodup : (steps'.map Step.part).Nodup :=
    (h.map Step.part).nodup_iff.mpr (nodup_latest steps)
  rw [p.run_last steps]
  refine List.Perm.foldl_eq' h (fun s hs t ht q => ?_) p
  by_cases hpart : s.part = t.part
  · -- There is only one step of each part, so the two are the same.
    rw [List.inj_on_of_nodup_map hnodup hs ht hpart]
  · exact q.apply_comm s t hpart

end Run

/-! ### Records -/

/-- The records of a page. -/
structure Values where
  test : Option TestRecord := none
  authorship : Option Authorship := none
  lastPass : Option TestRecord := none
  lastFail : Option TestRecord := none

def values (p : TestInfoPage) : Values :=
  { test := p.test, authorship := p.authorship, lastPass := p.lastPass, lastFail := p.lastFail }

/-- The records that a step brings, if there is one that brings some. -/
def valuesOf : Option Step → Values
  | some (.values test lastPass lastFail) => { test, lastPass, lastFail }
  | some (.acceptance record lastPass lastFail) =>
    { test := some record.test
      authorship := some ⟨record.author, record.testCases, record.stories⟩
      lastPass, lastFail }
  | _ => {}

section Values

variable (p : TestInfoPage) (s : Step)

/-- A step that brings records leaves none of the earlier ones. -/
theorem values_apply (h : s.part = .records) : (p.apply s).values = valuesOf (some s) := by
  cases s with
  | values => rfl
  | acceptance => rfl
  | capabilities => cases h
  | inputMode => cases h
  | adminMode => cases h

/-- Any other step leaves the records alone. -/
theorem values_apply_of_ne (h : s.part ≠ .records) : (p.apply s).values = p.values := by
  cases s with
  | values => exact absurd rfl h
  | acceptance => exact absurd rfl h
  | capabilities => rfl
  | inputMode => rfl
  | adminMode => rfl

/-- A page has the records of the last step that brought some, by induction at the end. -/
theorem values_run (steps : List Step) (h : p.values = {}) :
    (p.run steps).values = valuesOf (lastOf steps .records) := by
  induction steps using List.reverseRecOn with
  | nil => exact h
  | append_singleton steps s ih =>
      rw [run, List.foldl_append, List.foldl_cons, List.foldl_nil, ← run]
      by_cases hpart : s.part = .records
      · -- Whatever records the page had before are gone.
        rw [values_apply _ s hpart, ← hpart, lastOf_append_self]
      · rw [values_apply_of_ne _ s hpart, ih, lastOf_append_of_ne s steps _ hpart]

end Values

/-! ### Rows -/

/-- A row of an acceptance test. -/
def isAuthorship (r : FormRow) : Bool :=
  r.label ∈ ["Test Author", "Test Cases", "Agile Stories"]

/-- A row of another execution. -/
def isRecent (r : FormRow) : Bool :=
  r.label ∈ ["Most Recently Passed", "Most Recently Failed"]

/-- The rows that an acceptance test should have: its author, and its test cases and stories with
    commas between them. -/
def acceptanceLines (author : String) (testCases stories : List String) : List FormRow :=
  [{ label := "Test Author", field := { name := "author", value := author } },
    { label := "Test Cases", field := { name := "testcase", value := ", ".intercalate testCases } },
    { label := "Agile Stories", field := { name := "story", value := ", ".intercalate stories } }]

/-- The row that another execution should have: when it started, as a link to it. If there is no
    execution, or none that is known to have started, it says so. -/
def recentLine (formUrl : Url) (label name : String) (recent : Option TestRecord) : FormRow :=
  match recent, recent.bind (·.start) with
  | some t, some date =>
    { label
      field := { name, value := date.longText, isDisabled := true }
      link := some (Page.testLink formUrl t).text }
  | _, _ => { label, field := { name, value := "None", isDisabled := true } }

/-- A page shows some records: it has no others, its rows of an acceptance test are those that these
    records should have, and so are its rows of other executions, if it has such rows at all. -/
structure Shows (p : TestInfoPage) (v : Values) : Prop where
  values_eq : p.values = v
  authorship_eq : p.visible.filter isAuthorship =
    (v.authorship.map fun a => acceptanceLines a.author a.testCases a.stories).getD []
  recent_eq : p.visible.filter isRecent =
    if p.capabilities.hasDates then
      [recentLine p.formUrl "Most Recently Passed" "lastPass" v.lastPass,
        recentLine p.formUrl "Most Recently Failed" "lastFail" v.lastFail]
    else []

section Rows

variable (p : TestInfoPage)

/-- Some of the rows, part by part. -/
theorem filter_rows (f : FormRow → Bool) :
    p.rows.filter f = p.nameRows.filter f ++ ((p.authorship.map authorshipRows).getD []).filter f ++
      (if p.capabilities.hasDates then p.dateRows.filter f else []) ++
      (if p.capabilities.hasStatus then p.statusRows.filter f else []) ++
      (if p.capabilities.hasDates then p.recentRows.filter f else []) := by
  simp only [rows, List.filter_append, apply_ite (List.filter f), List.filter_nil]

/-- The row of another execution is the one that it should have. -/
theorem recentRow_eq_recentLine (label name : String) (recent : Option TestRecord) :
    p.recentRow label name recent = recentLine p.formUrl label name recent := by
  rcases recent with _ | t
  · rfl
  · unfold recentRow recentLine
    rw [Option.bind_some, Option.bind_some]
    cases t.start <;> rfl

/-- A page shows its records, whatever fields it has. -/
theorem shows_values : p.Shows p.values := by
  constructor
  case values_eq => rfl
  case authorship_eq =>
    -- The labels tell the parts of the form apart, and none of these rows is hidden.
    let f := fun r : FormRow => isAuthorship r && !r.field.isHidden
    have hauthorship : ((p.authorship.map authorshipRows).getD []).filter f
        = (p.authorship.map authorshipRows).getD [] := by
      cases p.authorship <;> rfl
    have hnames : p.nameRows.filter f = [] := rfl
    have hdates : p.dateRows.filter f = [] := rfl
    have hstatus : p.statusRows.filter f = [] := rfl
    have hrecent : p.recentRows.filter f = [] := rfl
    rw [visible, List.filter_filter, p.filter_rows f, hauthorship, hnames, hdates, hstatus, hrecent,
      ite_self, ite_self, List.nil_append, List.append_nil, List.append_nil, List.append_nil]
    exact congrArg (Option.getD · []) (congrArg (Option.map · p.authorship) rfl)
  case recent_eq =>
    let f := fun r : FormRow => isRecent r && !r.field.isHidden
    have hauthorship : ((p.authorship.map authorshipRows).getD []).filter f = [] := by
      cases p.authorship <;> rfl
    have hnames : p.nameRows.filter f = [] := rfl
    have hdates : p.dateRows.filter f = [] := rfl
    have hstatus : p.statusRows.filter f = [] := rfl
    have hrecent : p.recentRows.filter f = p.recentRows := rfl
    rw [visible, List.filter_filter, p.filter_rows f, hauthorship, hnames, hdates, hstatus, hrecent,
      ite_self, ite_self, List.nil_append, List.nil_append, List.nil_append, recentRows,
      recentRow_eq_recentLine, recentRow_eq_recentLine]
    rfl

end Rows

/-- Only an acceptance record brings an author, test cases and stories. -/
theorem isSome_authorship (last : Option Step) : (valuesOf last).authorship.isSome ↔
    ∃ record lastPass lastFail, last = some (.acceptance record lastPass lastFail) := by
  constructor
  · intro hsome
    match last with
    | none => cases hsome
    | some (.values _ _ _) => cases hsome
    | some (.acceptance record lastPass lastFail) => exact ⟨record, lastPass, lastFail, rfl⟩
    | some (.capabilities _) => cases hsome
    | some (.inputMode _) => cases hsome
    | some (.adminMode _) => cases hsome
  · rintro ⟨record, lastPass, lastFail, rfl⟩
    rfl

/-- A page has rows of an acceptance test exactly if its records have an author. -/
theorem Shows.exists_authorship (p : TestInfoPage) (v : Values) (h : p.Shows v) :
    (∃ r ∈ p.visible, isAuthorship r) ↔ v.authorship.isSome := by
  have hrows : (∃ r ∈ p.visible, isAuthorship r) ↔ p.visible.filter isAuthorship ≠ [] := by
    simp only [ne_eq, List.filter_eq_nil_iff, not_forall, not_not, exists_prop]
  rw [hrows, h.authorship_eq]
  cases v.authorship with
  | none => exact iff_of_false (fun hne => hne rfl) Bool.false_ne_true
  | some a => exact iff_of_true (List.cons_ne_nil _ _) rfl

/-! ### The table -/

/-- The width of a field for input. A field of no width has as much room as it gets. -/
def sizeText (width : Nat) : String :=
  if 0 < width then String.join [" size=\"", (Value.count width).asText, "\""] else ""

/-- A field for input. -/
def inputText (field : FormField) : String :=
  String.join ["<input type=\"text\" name=\"", field.name, "\" value=\"",
    Markup.escape field.value, "\"", sizeText field.width,
    if field.isDisabled then " disabled" else "", "/>"]

/-- A value, with its link if it has one. -/
def linkedText (r : FormRow) : String :=
  r.link.elim (Markup.escape r.field.value) fun link =>
    String.join ["<a href=\"", Markup.escape link, "\">", Markup.escape r.field.value, "</a>"]

/-- A row as a line of the table. -/
def rowText (inputMode : Bool) (r : FormRow) : String :=
  String.join ["  <tr>\n", "    <td width=\"30%\"><b>", r.label, ":</b></td>\n",
    "    <td width=\"70%\">", if inputMode then inputText r.field else linkedText r, "</td>\n",
    "  </tr>\n"]

/-- The table with the rows that are shown. -/
def tableText (p : TestInfoPage) : String :=
  String.join ["<table border=\"0\" cellspacing=\"0\" cellpadding=\"2\" width=\"100%\" ",
    "bgcolor=\"#FFFFFF\">\n", String.join (p.visible.map (rowText p.inputMode)), "</table>\n"]

/-- The nodes for the width of a field. -/
def sizeNodes : List Node :=
  [.text " size=\"", plain ["row", "field", "width"], .text "\""]

/-- The nodes for the table. -/
def tableNodes : List Node :=
  [.text "<table border=\"0\" cellspacing=\"0\" cellpadding=\"2\" width=\"100%\" ",
    .text "bgcolor=\"#FFFFFF\">\n", forEach "row" ["rows"] rowNodes, .text "</table>\n"]

section Table

variable (env : Bindings) (p : TestInfoPage) (r : FormRow)

theorem render_size :
    (whenAbove ["row", "field", "width"] 0 sizeNodes).render (("row", r.asValue) :: env)
      = some (sizeText r.field.width) := by
  have hsize : renderNodes (("row", r.asValue) :: env) sizeNodes
      = some (String.join [" size=\"", (Value.count r.field.width).asText, "\""]) := by
    refine renderNodes_of_writes _ _ _ ?_
    simp only [sizeNodes, writes_cons, writes_nil, render_text, true_and, and_true]
    exact render_plain _ _ _ rfl
  -- A width that is too great for a value is still shown, as the greatest one.
  have hwidth : (0 : Int) < min (r.field.width : Int) Value.greatest ↔ 0 < r.field.width := by
    have hgreatest : 0 < Value.greatest := by decide
    omega
  rw [render_whenAbove _ _ 0 (min r.field.width Value.greatest) _ _ rfl hsize, sizeText,
    if_congr hwidth rfl rfl]

theorem render_input :
    renderNodes (("row", r.asValue) :: env)
      [.text "<input type=\"text\" name=\"", plain ["row", "field", "name"], .text "\" value=\"",
        escaped ["row", "field", "value"], .text "\"",
        whenAbove ["row", "field", "width"] 0 sizeNodes,
        whenTrue ["row", "field", "disabled"] [.text " disabled"], .text "/>"]
      = some (inputText r.field) := by
  have hdisabled : renderNodes (("row", r.asValue) :: env) [.text " disabled"] = some " disabled" :=
    renderNodes_singleton _ _ _ (render_text _ _)
  refine renderNodes_of_writes _ _ _ ?_
  simp only [writes_cons, writes_nil, render_text, true_and, and_true]
  exact ⟨render_plain _ _ (.text r.field.name) rfl, render_escaped _ _ _ rfl, render_size env r,
    render_whenFlag _ _ _ _ _ _ _ rfl hdisabled (by rw [renderNodes])⟩

theorem render_linked :
    renderNodes (("row", r.asValue) :: env)
      [whenTrue ["row", "link"]
        [.text "<a href=\"", escaped ["row", "link"], .text "\">",
          escaped ["row", "field", "value"], .text "</a>"]
        [escaped ["row", "field", "value"]]]
      = some (linkedText r) := by
  have hlink : (operandOf ["row", "link"]).value? (("row", r.asValue) :: env)
      = some (.maybe r.link) := rfl
  have hvalue : (escaped ["row", "field", "value"]).render (("row", r.asValue) :: env)
      = some (Markup.escape r.field.value) := render_escaped _ _ _ rfl
  refine renderNodes_singleton _ _ _ (render_whenMaybe _ _ _ _ _ _ _ hlink (fun s hs => ?_) ?_)
  · refine renderNodes_of_writes _ _ _ ?_
    rw [hs] at hlink
    simp only [writes_cons, writes_nil, render_text, true_and, and_true]
    exact ⟨render_escaped _ _ s hlink, hvalue⟩
  · exact renderNodes_singleton _ _ _ hvalue

theorem render_row :
    renderNodes (("row", r.asValue) :: p.bindings) rowNodes = some (rowText p.inputMode r) := by
  have hvalue : (whenTrue ["input_mode"] _ _).render (("row", r.asValue) :: p.bindings) = _ :=
    render_whenFlag _ _ _ _ p.inputMode _ _ rfl (render_input p.bindings r)
      (render_linked p.bindings r)
  refine renderNodes_of_writes _ _ _ ?_
  simp only [rowNodes, valueNodes, List.cons_append, List.nil_append, writes_cons, writes_nil,
    render_text, true_and, and_true]
  exact ⟨render_plain _ _ (.text r.label) rfl, hvalue⟩

theorem render_table : renderNodes p.bindings tableNodes = some p.tableText := by
  refine renderNodes_of_writes _ _ _ ?_
  simp only [tableNodes, writes_cons, writes_nil, render_text, true_and, and_true]
  exact render_forEach _ _ _ _ _ FormRow.asValue _ rfl fun r _ => p.render_row r

/-- A page has its table. -/
theorem contains_tableText (html : String) (h : p.render = some html) :
    Contains html p.tableText := by
  have hsplit : template.nodes = template.nodes.take 2 ++ tableNodes ++ template.nodes.drop 6 := rfl
  rw [render, Template.render, hsplit] at h
  rcases contains_of_append _ _ _ _ html h with ⟨s, hs, hcontains⟩
  rw [Option.some.inj (p.render_table.symm.trans hs)]
  exact hcontains

end Table

/-- However a page was set up, it is the page on which only the last step of each part was done, in
    any order. It shows the records of the last step that brought some: rows for the author, test
    cases and stories exactly if that was an acceptance record, and then its own, and the other
    executions that came with it. These rows are in the table of the page, which has no other
    lines. -/
theorem run_latest (formUrl : Url) (adminUrl : Option Url) (steps : List Step) :
    let start : TestInfoPage := { formUrl, adminUrl }
    let page := start.run steps
    ∃ html, page.render = some html ∧
      (∀ steps', steps'.Perm (latest steps) →
        start.run steps' = page ∧ (start.run steps').render = some html) ∧
      page.Shows (valuesOf (lastOf steps .records)) ∧
      ((∃ r ∈ page.visible, isAuthorship r) ↔ ∃ record lastPass lastFail,
        lastOf steps .records = some (.acceptance record lastPass lastFail)) ∧
      Contains html page.tableText ∧ Markup.count "<tr>" html = page.visible.length := by
  intro start page
  -- The lines of the page are counted by its tags, so the table accounts for all of them.
  rcases page.hasTags with ⟨html, hhtml, -, -, hlines⟩
  have hshows : page.Shows (valuesOf (lastOf steps .records)) := by
    rw [← start.values_run steps rfl]
    exact page.shows_values
  refine ⟨html, hhtml, fun steps' hperm => ?_, hshows, ?_, page.contains_tableText html hhtml,
    hlines⟩
  · have hpage : start.run steps' = page := start.run_perm steps steps' hperm
    exact ⟨hpage, hpage ▸ hhtml⟩
  · rw [hshows.exists_authorship, isSome_authorship]

/-- An acceptance record, and then a plain one: nothing of the first is left. The other way about,
    the page has the author, the test cases and the stories, and the execution that came with
    them. -/
theorem run_latest_twice :
    let start : TestInfoPage := { formUrl := { scheme := "http", path := "/r" } }
    let noon : Instant := ⟨18414, 43200, 0, by decide, by decide⟩
    let first : TestRecord := { id := 1, displayName := "login", start := noon }
    let second : TestRecord := { id := 2, displayName := "logout" }
    let acceptance : Step := .acceptance
      { test := second, author := "eve", testCases := ["A", "B"], stories := ["S"] } (some first)
      (some second)
    let plain : Step := .values (some second) none none
    let steps := [acceptance, .inputMode true, plain, .inputMode false]
    let steps' := [.inputMode false, plain]
    steps'.Perm (latest steps) ∧ (start.run steps).render = (start.run steps').render ∧
    (start.run steps).values = { test := some second } ∧
    (¬ ∃ r ∈ (start.run steps).visible, isAuthorship r) ∧
    (start.run [plain, acceptance]).visible.filter isAuthorship = [
      { label := "Test Author", field := { name := "author", value := "eve" } },
      { label := "Test Cases", field := { name := "testcase", value := "A, B" } },
      { label := "Agile Stories", field := { name := "story", value := "S" } }] ∧
    (start.run [plain, acceptance]).visible.filter isRecent = [
      { label := "Most Recently Passed"
        field :=
          { name := "lastPass", value := "Mon, Jun 01, 2020 at 12:00:00", isDisabled := true }
        link := some "http:/r?testId=1" },
      { label := "Most Recently Failed"
        field := { name := "lastFail", value := "None", isDisabled := true } }] := by
  intro start noon first second acceptance plain steps steps'
  have hperm : steps'.Perm (latest steps) := List.Perm.swap _ _ _
  rcases run_latest start.formUrl none steps with ⟨html, hhtml, horder, hshows, hrows, -⟩
  -- The other order of the two records leaves the acceptance record.
  rcases run_latest start.formUrl none [plain, acceptance] with ⟨-, -, -, hlater, -⟩
  refine ⟨hperm, hhtml.trans (horder steps' hperm).2.symm, hshows.values_eq, ?_, ?_, ?_⟩
  · rw [hrows]
    rintro ⟨record, lastPass, lastFail, hlast⟩
    cases hlast
  · exact hlater.authorship_eq.trans (by decide +kernel)
  · exact hlater.recent_eq.trans (by decide +kernel)

end TestInfoPage

end RunReport
