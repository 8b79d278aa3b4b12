import RunReport.Page.ReleaseList
import RunReport.Page.TestInfo
import RunReport.Proofs.CellText
import RunReport.Proofs.Listing
import RunReport.Proofs.Tally

/-!
# The Tags of the Pages

No record can bring a tag to a page.

A page shows names, messages and addresses that come from files and queries. Its links and the
lines of its tables should all come from its template, however these texts look. For each of the
five pages two things are put together here. Everything that is put in is bound and has no angle
bracket, because it is escaped or is one of the texts that need no escape, so `render_of_fits`
applies. And the tags that the template contributes are counted: what can be foretold of the
template is decided once, and the loops over the rows are left.

## Main definitions

* `Page.link`, `Page.line`: How a link and a line of a table begin.
* `Page.Closed`: A template whose texts do not break off inside such a beginning.
* `Page.HasTags`: A page has no tags but its template's, and so many links and lines.
* `Page.IsTable`: The template of a page with a table.
* `TestInfoPage.visible`: The rows that are shown.
* `TestInfoPage.IsPlain`: A row whose label and name need no escape.

## Theorems

* `hasTags_of_fits`: A page has the tags that its template contributes.
* `hasTags_of_rows`, `hasTags_of_linkedRows`: A page with a table has the links of its rows, and a
  line for each row.
* `fits_row`, `fits_release`, `fits_group`: What stands in the loops of a page fits.
* `fits_template`: Each page fits.
* `hasTags`: How many links and lines each page has.
* `pages_hasTags`: How many links and lines all pages have.
-/

namespace RunReport

open Markup Template

namespace Page

/-- How a link begins. -/
def link : List Char :=
  ['<', 'a', ' ', 'h', 'r', 'e', 'f', '=']

/-- How a line of a table begins. -/
def line : List Char :=
  ['<', 't', 'r', '>']

/-- No text of a template breaks off inside the beginning of a link or of a line. -/
def Closed (t : Template) : Prop :=
  ∀ s ∈ texts t.nodes, Whole link s.toList ∧ Whole line s.toList

instance (t : Template) : Decidable (Closed t) :=
  inferInstanceAs (Decidable (∀ s ∈ texts t.nodes, _))

/-- A page is there, all its tags are those of its template, and it has so many links and lines. -/
def HasTags (page : Option String) (t : Template) (env : Bindings) (links lines : Nat) : Prop :=
  ∃ html, page = some html ∧ t.OwnsTags env html ∧
    count "<a href=" html = links ∧ count "<tr>" html = lines

/-- A page that everything fits into has the tags that its template contributes. -/
theorem hasTags_of_fits (t : Template) (env : Bindings) (hclosed : Closed t)
    (hfits : Fits env t.nodes) :
    HasTags (t.render env) t env (ownTags link env t.nodes) (ownTags line env t.nodes) := by
  have hlink : "<a href=".toList = link := by decide +kernel
  have hline : "<tr>".toList = line := by decide +kernel
  rcases render_of_fits t env hfits with ⟨html, hhtml, howns⟩
  refine ⟨html, hhtml, howns, ?_, ?_⟩
  · rw [count, hlink]
    exact howns _ fun s hs => (hclosed s hs).1
  · rw [count, hline]
    exact howns _ fun s hs => (hclosed s hs).2

/-- As many ones as there are elements of a kind. -/
theorem sum_toNat {α : Type} (f : α → Bool) (xs : List α) :
    (xs.map fun x => (f x).toNat).sum = (xs.filter f).length := by
  induction xs with
  | nil => rfl
  | cons x xs ih =>
      rw [List.map_cons, List.sum_cons, ih, List.filter_cons]
      cases f x with
      | true => exact Nat.add_comm _ _
      | false => exact Nat.zero_add _

/-! ### Pages with a table -/

/-- The template of a page with a table: it has a line for the names of the columns, and one more
    if there are no rows, and otherwise only the rows have lines, each of them one. -/
def IsTable (t : Template) (body : List Node) : Prop :=
  Closed t ∧
  (∀ b, foretold? link [(["no_results"], b)] (straight t.nodes) = some 0 ∧
    foretold? line [(["no_results"], b)] (straight t.nodes) = some (1 + b.toNat)) ∧
  foretold? line [] body = some 1

instance (t : Template) (body : List Node) : Decidable (IsTable t body) :=
  inferInstanceAs (Decidable (_ ∧ _ ∧ _))

section Table

variable (env : Bindings) (v : Value)

/-- A cell fits if its style class is inert and its content fits. -/
theorem fits_cell (styleClass attributes : String) (content : List Node)
    (hclass : (v.member? styleClass).elim False Value.Inert)
    (hcontent : Fits (("row", v) :: env) content) :
    Fits (("row", v) :: env) (cell styleClass attributes content) := by
  simp only [cell, fits_append, fits_cons, fits_nil, fits_text, fits_plain, true_and, and_true]
  exact ⟨hclass, hcontent⟩

/-- A cell with one value fits if the value is inert as well. -/
theorem fits_plainCell (styleClass attributes name : String)
    (hclass : (v.member? styleClass).elim False Value.Inert)
    (hvalue : (v.member? name).elim False Value.Inert) :
    Fits (("row", v) :: env) (cell styleClass attributes [plain ["row", name]]) := by
  refine fits_cell env v _ _ _ hclass ?_
  simp only [fits_cons, fits_nil, fits_plain, and_true]
  exact hvalue

theorem fits_noResults (columns : String) : (noResults columns).Fits env := by
  refine fits_whenTrue env _ _ _ ?_ ((fits_nil env).mpr trivial)
  simp only [fits_cons, fits_nil, fits_text, true_and]

/-- A page with a table has the links of its rows, and a line for each row besides that for the
    names of the columns. Without rows it has a line that says so. -/
theorem hasTags_of_rows (t : Template) (body : List Node) (rows : List Value)
    (links : Value → Nat) (htable : IsTable t body) (hfits : Fits env t.nodes)
    (hloops : loops t.nodes = [forEach "row" ["rows"] body])
    (hrows : (operandOf ["rows"]).value? env = some (.list rows))
    (hnone : (operandOf ["no_results"]).value? env = some (.bool rows.isEmpty))
    (hbody : ∀ v ∈ rows, Fits (("row", v) :: env) body)
    (hlinks : ∀ v ∈ rows, ownTags link (("row", v) :: env) body = links v) :
    HasTags (t.render env) t env (rows.map links).sum (1 + max 1 rows.length) := by
  -- The only choice outside of the loop is the line for no rows, and it is known how that goes.
  have hknown : Known.Holds [(["no_results"], rows.isEmpty)] env :=
    holds_cons env [] "no_results" [] rows.isEmpty (by rw [hnone]; rfl) (holds_nil env)
  have htags : ∀ tag k, foretold? tag [(["no_results"], rows.isEmpty)] (straight t.nodes) = some k →
      ownTags tag env t.nodes
        = k + (rows.map fun v => ownTags tag (("row", v) :: env) body).sum := by
    intro tag k hk
    rw [ownTags_of_straight tag _ env hknown t.nodes k hfits hk, hloops, ownTags, ownTags,
      ownTags_forEach tag env "row" ["rows"] body rows hrows, Nat.add_zero]
  have hlines : ∀ v ∈ rows, ownTags line (("row", v) :: env) body = 1 := fun v hv =>
    ownTags_of_foretold line [] _ (holds_nil _) body 1 (hbody v hv) htable.2.2
  have hstraight := htable.2.1 rows.isEmpty
  rcases hasTags_of_fits t env htable.1 hfits with ⟨html, hhtml, howns, hlink, hline⟩
  refine ⟨html, hhtml, howns, ?_, ?_⟩
  · rw [hlink, htags _ _ hstraight.1, List.map_congr_left hlinks, Nat.zero_add]
  · rw [hline, htags _ _ hstraight.2, sum_rounds _ 1 rows hlines]
    cases rows with
    | nil => rfl
    | cons v vs =>
        simp only [List.isEmpty_cons, Bool.toNat_false, List.length_cons]
        omega

/-- If each row has one link there are as many links as rows. -/
theorem hasTags_of_linkedRows (t : Template) (body : List Node) (rows : List Value)
    (htable : IsTable t body) (hlink : foretold? link [] body = some 1)
    (hfits : Fits env t.nodes) (hloops : loops t.nodes = [forEach "row" ["rows"] body])
    (hrows : (operandOf ["rows"]).value? env = some (.list rows))
    (hnone : (operandOf ["no_results"]).value? env = some (.bool rows.isEmpty))
    (hbody : ∀ v ∈ rows, Fits (("row", v) :: env) body) :
    HasTags (t.render env) t env rows.length (1 + max 1 rows.length) := by
  have hlinks : ∀ v ∈ rows, ownTags link (("row", v) :: env) body = 1 := fun v hv =>
    ownTags_of_foretold link [] _ (holds_nil _) body 1 (hbody v hv) hlink
  have htags := hasTags_of_rows env t body rows (fun _ => 1) htable hfits hloops hrows hnone hbody
    hlinks
  rwa [sum_rounds _ 1 _ fun _ _ => rfl, Nat.mul_one] at htags

end Table

end Page

open Page

/-! ### The list of tests -/

namespace TestListPage

/-- What can be told of the template in advance. -/
theorem template_tags : IsTable template rowNodes ∧ foretold? link [] rowNodes = some 1 := by
  decide +kernel

/-- The row of a record fits. -/
theorem fits_row (p : TestListPage) (env : Bindings) (number rowspan : Nat) (g : TestGroup)
    (isFirst : Bool) (t : TestRecord) :
    Fits (("row", (p.row number rowspan g isFirst t).value) :: env) rowNodes := by
  have hshade := inert_shade number
  have hclass : ∀ h : Option Highlight,
      Inert ((h.map Highlight.columnClass).getD (shade number)) :=
    fun h => inert_getD _ h _ inert_columnClass hshade
  -- Each text that is not escaped is a class, a number or a label, and these have no tags.
  have hcells : Fits (("row", (p.row number rowspan g isFirst t).value) :: env) groupCells := by
    simp only [groupCells, fits_cons, fits_nil, fits_text, fits_plain, fits_escaped, true_and,
      and_true]
    refine ⟨hshade, inert_count rowspan, inert_count number, hshade, inert_count rowspan, rfl, ?_⟩
    refine fits_whenAbove _ _ _ _ rfl ?_
    simp only [fits_cons, fits_nil, fits_text, fits_plain, true_and, and_true]
    exact inert_count g.tests.length
  have hstatus : Fits (("row", (p.row number rowspan g isFirst t).value) :: env)
      [.text "<a href=\"", escaped ["row", "url"], .text "\">", plain ["row", "status"],
        .text "</a>"] := by
    simp only [fits_cons, fits_nil, fits_text, fits_plain, fits_escaped, true_and, and_true]
    exact ⟨rfl, inert_label t.status⟩
  simp only [rowNodes, fits_append, fits_cons, fits_nil, fits_text, true_and, and_true]
  exact ⟨⟨fits_whenTrue _ _ _ _ hcells ((fits_nil _).mpr trivial),
    fits_plainCell _ _ _ _ _ (hclass _) (inert_elapsedText t)⟩,
    fits_cell _ _ _ _ _ (hclass _) hstatus⟩

/-- Every row of the page is the row of a record. -/
theorem exists_row (p : TestListPage) (r : TestListRow) (h : r ∈ p.rows) :
    ∃ number rowspan g isFirst t, r = p.row number rowspan g isFirst t := by
  rw [rows, Listing.rowsFrom_eq, List.mem_flatMap] at h
  rcases h with ⟨g, -, hr⟩
  rw [Listing.groupRows_eq, List.mem_mapIdx] at hr
  rcases hr with ⟨i, hi, rfl⟩
  exact ⟨_, _, _, _, _, rfl⟩

theorem fits_rows (p : TestListPage) (env : Bindings) :
    ∀ v ∈ p.rows.map TestListRow.value, Fits (("row", v) :: env) rowNodes := by
  intro v hv
  rcases List.mem_map.mp hv with ⟨r, hr, rfl⟩
  rcases exists_row p r hr with ⟨number, rowspan, g, isFirst, t, rfl⟩
  exact fits_row p env number rowspan g isFirst t

theorem fits_template (p : TestListPage) : Fits p.bindings template.nodes := by
  simp only [template, formStart, bindings, fits_append, fits_cons, fits_nil, fits_text,
    fits_escaped, true_and, and_true]
  exact ⟨rfl, fits_forEach _ _ _ _ _ rfl (p.fits_rows _), fits_noResults _ _⟩

/-- The page has one link and one line for each row. -/
theorem hasTags (p : TestListPage) :
    HasTags p.render template p.bindings p.rows.length (1 + max 1 p.rows.length) := by
  have htags := hasTags_of_linkedRows p.bindings template rowNodes (p.rows.map TestListRow.value)
    template_tags.1 template_tags.2 p.fits_template rfl rfl rfl (p.fits_rows _)
  rwa [List.length_map] at htags

end TestListPage

/-! ### The history of a test -/

namespace TestHistoryPage

/-- What can be told of the template in advance. -/
theorem template_tags : IsTable template rowNodes ∧ foretold? link [] rowNodes = some 1 := by
  decide +kernel

/-- The row of a record fits. -/
theorem fits_row (p : TestHistoryPage) (env : Bindings) (t : TestRecord) :
    Fits (("row", (p.row t).value) :: env) rowNodes := by
  have hclasses := inert_ofClassification (p.highlighter.classify t)
  have hid : Fits (("row", (p.row t).value) :: env)
      [.text "<a href=\"", escaped ["row", "url"], .text "\">", plain ["row", "id"],
        .text "</a>"] := by
    simp only [fits_cons, fits_nil, fits_text, fits_plain, fits_escaped, true_and, and_true]
    exact ⟨rfl, inert_text t.id.toNat⟩
  simp only [rowNodes, fits_append, fits_cons, fits_nil, fits_text, true_and, and_true]
  exact ⟨⟨⟨⟨fits_cell _ _ _ _ _ hclasses.row hid,
    fits_plainCell _ _ _ _ _ hclasses.row (inert_timeText t.start)⟩,
    fits_plainCell _ _ _ _ _ hclasses.row (inert_timeText t.finish)⟩,
    fits_plainCell _ _ _ _ _ hclasses.time (inert_elapsedText t)⟩,
    fits_plainCell _ _ _ _ _ hclasses.status (inert_label t.status)⟩

theorem fits_rows (p : TestHistoryPage) (env : Bindings) :
    ∀ v ∈ p.rows.map TestHistoryRow.value, Fits (("row", v) :: env) rowNodes := by
  intro v hv
  rw [rows, List.map_map] at hv
  rcases List.mem_map.mp hv with ⟨t, -, rfl⟩
  exact fits_row p env t

theorem fits_template (p : TestHistoryPage) : Fits p.bindings template.nodes := by
  simp only [template, formStart, bindings, fits_append, fits_cons, fits_nil, fits_text,
    fits_escaped, true_and, and_true]
  exact ⟨rfl, fits_forEach _ _ _ _ _ rfl (p.fits_rows _), fits_noResults _ _⟩

/-- The page has one link and one line for each record. -/
theorem hasTags (p : TestHistoryPage) :
    HasTags p.render template p.bindings p.tests.length (1 + max 1 p.rows.length) := by
  have htags := hasTags_of_linkedRows p.bindings template rowNodes (p.rows.map TestHistoryRow.value)
    template_tags.1 template_tags.2 p.fits_template rfl rfl rfl (p.fits_rows _)
  have hlength : p.rows.length = p.tests.length := List.length_map _
  rw [List.length_map] at htags
  rwa [hlength] at htags ⊢

end TestHistoryPage

/-! ### The list of suites -/

namespace SuiteListPage

/-- What can be told of the template in advance. -/
theorem template_tags : IsTable template rowNodes ∧
    ∀ b, foretold? link [(["row", "url"], b)] rowNodes = some b.toNat := by
  decide +kernel

/-- The cell of a number fits if its style class and the number are inert. -/
theorem fits_numberCell (env : Bindings) (v : Value) (styleClass name : String)
    (hclass : (v.member? styleClass).elim False Value.Inert)
    (hvalue : (v.member? name).elim False Value.Inert) :
    Fits (("row", v) :: env) (numberCell styleClass name) := by
  refine fits_cell env v _ _ _ hclass ?_
  simp only [fits_cons, fits_nil, fits_text, fits_plain, true_and, and_true]
  exact hvalue

/-- The cell of a name fits whether or not it is a link. -/
theorem fits_nameCell (p : SuiteListPage) (env : Bindings) (s : SuiteSummary) :
    Fits (("row", (p.row s).value) :: env) nameCell := by
  have hname : Fits (("row", (p.row s).value) :: env) [escaped ["row", "name"]] := by
    simp only [fits_cons, fits_nil, fits_escaped, and_true]
    rfl
  have hlink : Fits (("row", (p.row s).value) :: env)
      [.text "<a href=\"", escaped ["row", "url"], .text "\">", escaped ["row", "name"],
        .text "</a>"] := by
    simp only [fits_cons, fits_nil, fits_text, fits_escaped, true_and, and_true]
    exact ⟨rfl, rfl⟩
  have hincomplete : Fits (("row", (p.row s).value) :: env) [.text " (incomplete)"] := by
    simp only [fits_cons, fits_nil, fits_text, and_self]
  refine fits_cell _ _ _ _ _ (inert_classes s p.criteria).row ?_
  simp only [fits_cons, fits_nil, and_true]
  exact ⟨fits_whenTrue _ _ _ _ hlink hname,
    fits_whenTrue _ _ _ _ hincomplete ((fits_nil _).mpr trivial)⟩

/-- The row of a suite fits. -/
theorem fits_row (p : SuiteListPage) (env : Bindings) (s : SuiteSummary) :
    Fits (("row", (p.row s).value) :: env) rowNodes := by
  have hclasses := inert_classes s p.criteria
  simp only [rowNodes, fits_append, fits_cons, fits_nil, fits_text, true_and, and_true]
  exact ⟨⟨⟨⟨⟨⟨⟨⟨⟨fits_nameCell p env s,
    fits_numberCell _ _ _ _ hclasses.row (inert_spanText s.elapsed)⟩,
    fits_numberCell _ _ _ _ hclasses.passing (inert_count s.totals.passing)⟩,
    fits_numberCell _ _ _ _ hclasses.failing (inert_count s.totals.failing)⟩,
    fits_numberCell _ _ _ _ hclasses.skipped (inert_count s.totals.skipped)⟩,
    fits_numberCell _ _ _ _ hclasses.row (inert_count s.totals.blacklisted)⟩,
    fits_numberCell _ _ _ _ hclasses.long (inert_count s.totals.long)⟩,
    fits_numberCell _ _ _ _ hclasses.long (inert_count s.totals.killed)⟩,
    fits_plainCell _ _ _ _ _ hclasses.row (inert_label s.status)⟩,
    fits_numberCell _ _ _ _ hclasses.total (inert_totalText s.totals)⟩

theorem fits_rows (p : SuiteListPage) (env : Bindings) :
    ∀ v ∈ p.rows.map SuiteListRow.value, Fits (("row", v) :: env) rowNodes := by
  intro v hv
  rw [rows, List.map_map] at hv
  rcases List.mem_map.mp hv with ⟨s, -, rfl⟩
  exact fits_row p env s

theorem fits_template (p : SuiteListPage) : Fits p.bindings template.nodes := by
  simp only [template, bindings, fits_cons, fits_nil, fits_text, true_and, and_true]
  exact ⟨fits_forEach _ _ _ _ _ rfl (p.fits_rows _), fits_noResults _ _⟩

/-- A row of the page has a link if the suite has a number. -/
theorem links_row (p : SuiteListPage) (env : Bindings) (s : SuiteSummary) :
    ownTags link (("row", (p.row s).value) :: env) rowNodes = (decide (s.suiteId ≠ 0)).toNat := by
  have hurl : (Value.maybe ((p.suiteLink s).map Url.text)).isTrue = decide (s.suiteId ≠ 0) := by
    unfold suiteLink
    by_cases hzero : s.suiteId = 0
    · rw [if_pos hzero, decide_eq_false (not_not_intro hzero)]
      rfl
    · rw [if_neg hzero, decide_eq_true hzero]
      rfl
  have hknown : Known.Holds [(["row", "url"], decide (s.suiteId ≠ 0))]
      (("row", (p.row s).value) :: env) :=
    holds_cons _ [] "row" ["url"] _ hurl (holds_nil _)
  exact ownTags_of_foretold link _ _ hknown rowNodes _ (p.fits_row env s) (template_tags.2 _)

/-- The page has a link for each suite with a number, and one line for each suite. -/
theorem hasTags (p : SuiteListPage) :
    HasTags p.render template p.bindings
      (p.suites.filter (·.suiteId ≠ 0)).length (1 + max 1 p.rows.length) := by
  have htags := hasTags_of_rows p.bindings template rowNodes (p.rows.map SuiteListRow.value)
    (fun v => ownTags link (("row", v) :: p.bindings) rowNodes) template_tags.1 p.fits_template
    rfl rfl rfl (p.fits_rows _) fun _ _ => rfl
  have hlinks : ((p.rows.map SuiteListRow.value).map fun v =>
        ownTags link (("row", v) :: p.bindings) rowNodes).sum
      = (p.suites.filter (·.suiteId ≠ 0)).length := by
    rw [← sum_toNat, rows, List.map_map, List.map_map]
    exact congrArg List.sum (List.map_congr_left fun s _ => p.links_row p.bindings s)
  rwa [hlinks, List.length_map] at htags

end SuiteListPage

/-! ### The details of a test -/

namespace TestInfoPage

/-- The rows that are shown. -/
def visible (p : TestInfoPage) : List FormRow :=
  p.rows.filter (!·.field.isHidden)

/-- What can be told of the template in advance. -/
theorem template_tags : Closed template ∧
    (∀ b, foretold? link [(["delete_url"], b)] (straight template.nodes) = some b.toNat ∧
      foretold? line [(["delete_url"], b)] (straight template.nodes) = some 0) ∧
    (∀ input linked, foretold? link [(["input_mode"], input), (["row", "link"], linked)] rowNodes
      = some (!input && linked).toNat) ∧
    foretold? line [] rowNodes = some 1 ∧
    foretold? link [] hiddenNodes = some 0 ∧ foretold? line [] hiddenNodes = some 0 := by
  decide +kernel

/-- The label of a row and the name of its field are inert. -/
def IsPlain (r : FormRow) : Prop :=
  Inert r.label ∧ Inert r.field.name

instance (r : FormRow) : Decidable (IsPlain r) :=
  inferInstanceAs (Decidable (_ ∧ _))

/-- Labels and names of fields do not depend on the record. -/
theorem isPlain_rows (p : TestInfoPage) : ∀ r ∈ p.rows, IsPlain r := by
  -- The names and the labels of rows are texts of the program, so they are looked at one by one.
  have hnames : ∀ r ∈ p.nameRows, IsPlain r := by
    simp only [nameRows, List.forall_mem_cons, IsPlain]
    decide
  have hauthorship : ∀ a, ∀ r ∈ authorshipRows a, IsPlain r := by
    intro a
    simp only [authorshipRows, List.forall_mem_cons, IsPlain]
    decide
  have hdates : ∀ r ∈ p.dateRows, IsPlain r := by
    simp only [dateRows, List.forall_mem_cons, IsPlain]
    decide
  have hstatus : ∀ r ∈ p.statusRows, IsPlain r := by
    simp only [statusRows, List.forall_mem_cons, IsPlain]
    decide
  have hrecent : ∀ r ∈ p.recentRows, IsPlain r := by
    simp only [recentRows, recentRow, List.forall_mem_cons, IsPlain]
    decide
  have hnone : ∀ r ∈ ([] : List FormRow), IsPlain r := fun r hr => by cases hr
  simp only [rows, List.forall_mem_append]
  refine ⟨⟨⟨⟨hnames, ?_⟩, ?_⟩, ?_⟩, ?_⟩
  · cases p.authorship with
    | none => exact hnone
    | some a => exact hauthorship a
  · split <;> assumption
  · split <;> assumption
  · split <;> assumption

/-- A row fits. -/
theorem fits_row (env : Bindings) (r : FormRow) (hplain : IsPlain r) :
    Fits (("row", r.asValue) :: env) rowNodes := by
  -- Values and addresses come from records, and they are escaped wherever they stand.
  have hvalue : Fits (("row", r.asValue) :: env) [escaped ["row", "field", "value"]] := by
    simp only [fits_cons, fits_nil, fits_escaped, and_true]
    rfl
  have hlink : Fits (("row", r.asValue) :: env)
      [.text "<a href=\"", escaped ["row", "link"], .text "\">",
        escaped ["row", "field", "value"], .text "</a>"] := by
    simp only [fits_cons, fits_nil, fits_text, fits_escaped, true_and, and_true]
    exact ⟨rfl, rfl⟩
  have hsize : Fits (("row", r.asValue) :: env)
      [.text " size=\"", plain ["row", "field", "width"], .text "\""] := by
    simp only [fits_cons, fits_nil, fits_text, fits_plain, true_and, and_true]
    exact inert_count r.field.width
  have hdisabled : Fits (("row", r.asValue) :: env) [.text " disabled"] := by
    simp only [fits_cons, fits_nil, fits_text, and_self]
  simp only [rowNodes, valueNodes, fits_append, fits_cons, fits_nil, fits_text, fits_plain,
    true_and, and_true]
  refine ⟨hplain.1, fits_whenTrue _ _ _ _ ?_ ?_⟩
  · simp only [fits_cons, fits_nil, fits_text, fits_plain, fits_escaped, true_and, and_true]
    exact ⟨hplain.2, rfl, fits_whenAbove _ _ _ _ rfl hsize,
      fits_whenTrue _ _ _ _ hdisabled ((fits_nil _).mpr trivial)⟩
  · simp only [fits_cons, fits_nil, and_true]
    exact fits_whenTrue _ _ _ _ hlink hvalue

/-- A field that is not shown fits as well. -/
theorem fits_hidden (env : Bindings) (r : FormRow) (hplain : IsPlain r) :
    Fits (("field", r.field.asValue) :: env) hiddenNodes := by
  simp only [hiddenNodes, fits_cons, fits_nil, fits_text, fits_plain, fits_escaped, true_and,
    and_true]
  exact ⟨hplain.2, rfl⟩

theorem fits_template (p : TestInfoPage) : Fits p.bindings template.nodes := by
  have hempty := (fits_nil p.bindings).mpr trivial
  have hhidden : (forEach "field" ["hidden"] hiddenNodes).Fits p.bindings := by
    refine fits_forEach _ _ _ _ _ rfl fun v hv => ?_
    rcases List.mem_map.mp hv with ⟨r, hr, rfl⟩
    exact fits_hidden _ r (p.isPlain_rows r (List.mem_of_mem_filter hr))
  have hvisible : (forEach "row" ["rows"] rowNodes).Fits p.bindings := by
    refine fits_forEach _ _ _ _ _ rfl fun v hv => ?_
    rcases List.mem_map.mp hv with ⟨r, hr, rfl⟩
    exact fits_row _ r (p.isPlain_rows r (List.mem_of_mem_filter hr))
  simp only [template, fits_cons, fits_nil, fits_text, true_and, and_true]
  refine ⟨fits_whenTrue _ _ _ _ ?_ hempty, hhidden, hvisible, fits_whenTrue _ _ _ _ ?_ hempty,
    fits_whenTrue _ _ _ _ ?_ hempty⟩
  · simp only [fits_cons, fits_nil, fits_text, fits_escaped, true_and, and_true]
    rfl
  · simp only [fits_cons, fits_nil, fits_text, fits_escaped, true_and, and_true]
    rfl
  · simp only [fits_cons, fits_nil, fits_text, and_self]

/-- A row has a link if it has one and is not for input. -/
theorem links_row (p : TestInfoPage) (r : FormRow) (hplain : IsPlain r) :
    ownTags link (("row", r.asValue) :: p.bindings) rowNodes
      = (!p.inputMode && r.link.isSome).toNat := by
  have hlink : (Value.maybe r.link).isTrue = r.link.isSome := by
    cases r.link <;> rfl
  have hknown : Known.Holds [(["input_mode"], p.inputMode), (["row", "link"], r.link.isSome)]
      (("row", r.asValue) :: p.bindings) :=
    holds_cons _ _ "input_mode" [] _ rfl (holds_cons _ _ "row" ["link"] _ hlink (holds_nil _))
  exact ownTags_of_foretold link _ _ hknown rowNodes _ (fits_row _ r hplain)
    (template_tags.2.2.1 _ _)

/-- The tags of the page are those of its rows, and a link to remove the record. -/
theorem ownTags_template (p : TestInfoPage) :
    ownTags link p.bindings template.nodes
        = p.deleteLink.isSome.toNat +
          (p.visible.map fun r => (!p.inputMode && r.link.isSome).toNat).sum ∧
      ownTags line p.bindings template.nodes = p.visible.length := by
  rcases template_tags with ⟨-, hstraight, -, hline, hhidden, hhiddenLine⟩
  have hplain : ∀ f : FormRow → Bool, ∀ r ∈ p.rows.filter f, IsPlain r :=
    fun f r hr => p.isPlain_rows r (List.mem_of_mem_filter hr)
  have hdelete : (Value.maybe (p.deleteLink.map Url.text)).isTrue = p.deleteLink.isSome := by
    cases p.deleteLink <;> rfl
  have hknown : Known.Holds [(["delete_url"], p.deleteLink.isSome)] p.bindings :=
    holds_cons _ [] "delete_url" [] _ hdelete (holds_nil _)
  have hloops : loops template.nodes
      = [forEach "field" ["hidden"] hiddenNodes, forEach "row" ["rows"] rowNodes] := rfl
  -- The fields that are not shown have neither links nor lines.
  have htags : ∀ tag k, foretold? tag [(["delete_url"], p.deleteLink.isSome)]
        (straight template.nodes) = some k → foretold? tag [] hiddenNodes = some 0 →
      ownTags tag p.bindings template.nodes
        = k + (p.visible.map fun r =>
          ownTags tag (("row", r.asValue) :: p.bindings) rowNodes).sum := by
    intro tag k hk hhidden
    have hzero : (forEach "field" ["hidden"] hiddenNodes).ownTags tag p.bindings = 0 := by
      rw [ownTags_forEach tag p.bindings _ ["hidden"] _ _ rfl, List.map_map,
        sum_rounds _ 0 _ fun r hr => ?_, Nat.mul_zero]
      exact ownTags_of_foretold tag [] _ (holds_nil _) hiddenNodes 0
        (fits_hidden _ r (hplain _ r hr)) hhidden
    rw [ownTags_of_straight tag _ _ hknown template.nodes k p.fits_template hk, hloops, ownTags,
      ownTags, ownTags, hzero, ownTags_forEach tag p.bindings _ ["rows"] _ _ rfl, List.map_map]
    simp only [Nat.zero_add, Nat.add_zero]
    rfl
  refine ⟨?_, ?_⟩
  · rw [htags link _ (hstraight _).1 hhidden]
    exact congrArg (_ + List.sum ·) (List.map_congr_left fun r hr => p.links_row r (hplain _ r hr))
  · rw [htags line _ (hstraight _).2 hhiddenLine, sum_rounds _ 1 _ fun r hr => ?_]
    · omega
    · exact ownTags_of_foretold line [] _ (holds_nil _) rowNodes 1
        (fits_row _ r (hplain _ r hr)) hline

/-- The page has a link for each row with one, unless the rows are for input, and one to remove the
    record, and it has one line for each row that is shown. -/
theorem hasTags (p : TestInfoPage) :
    HasTags p.render template p.bindings
      ((if p.inputMode then 0 else (p.visible.filter (·.link.isSome)).length) +
        if p.deleteLink.isSome then 1 else 0)
      p.visible.length := by
  have htags := hasTags_of_fits template p.bindings template_tags.1 p.fits_template
  rw [p.ownTags_template.1, p.ownTags_template.2] at htags
  have hrows : (p.visible.map fun r => (!p.inputMode && r.link.isSome).toNat).sum
      = if p.inputMode then 0 else (p.visible.filter (·.link.isSome)).length := by
    rw [sum_toNat]
    cases p.inputMode with
    | true => simp only [Bool.not_true, Bool.false_and, List.filter_false, List.length_nil, if_true]
    | false => simp only [Bool.not_false, Bool.true_and, Bool.false_eq_true, if_false]
  have hdelete : p.deleteLink.isSome.toNat = if p.deleteLink.isSome then 1 else 0 := by
    cases p.deleteLink <;> rfl
  rw [hrows, hdelete, Nat.add_comm] at htags
  exact htags

end TestInfoPage

/-! ### The list of releases -/

namespace ReleaseListPage

/-- What can be told of the template in advance. -/
theorem template_tags : Closed template ∧
    (foretold? link [] (straight template.nodes) = some 0 ∧
      foretold? line [] (straight template.nodes) = some 0) ∧
    (∀ b, foretold? link [(["release", "retired"], b)] (straight releaseNodes)
        = some (1 + b.toNat) ∧
      foretold? line [(["release", "retired"], b)] (straight releaseNodes) = some 2) ∧
    foretold? link [] groupNodes = some 1 ∧ foretold? line [] groupNodes = some 0 := by
  decide +kernel

/-- The link of a group fits. -/
theorem fits_group (p : ReleaseListPage) (env : Bindings) (r : Release) (g : ChangelistGroup) :
    Fits (("group", p.groupValue r g) :: env) groupNodes := by
  have htitle : Fits (("group", p.groupValue r g) :: env)
      [.text " title=\"", escaped ["group", "version"], .text "\""] := by
    simp only [fits_cons, fits_nil, fits_text, fits_escaped, true_and, and_true]
    rfl
  simp only [groupNodes, fits_cons, fits_nil, fits_text, fits_escaped, true_and, and_true]
  exact ⟨rfl, fits_whenTrue _ _ _ _ htitle ((fits_nil _).mpr trivial), rfl⟩

theorem fits_groups (p : ReleaseListPage) (env : Bindings) (r : Release) :
    ∀ v ∈ r.changelistGroups.map (p.groupValue r), Fits (("group", v) :: env) groupNodes := by
  intro v hv
  rcases List.mem_map.mp hv with ⟨g, -, rfl⟩
  exact p.fits_group env r g

/-- The rows of a release fit. -/
theorem fits_release (p : ReleaseListPage) (env : Bindings) (r : Release) :
    Fits (("release", p.releaseValue r) :: env) releaseNodes := by
  have hempty := (fits_nil (("release", p.releaseValue r) :: env)).mpr trivial
  have hbuilds : Fits (("release", p.releaseValue r) :: env)
      [.text " (<a href=\"javascript:void\" onclick=\"toggleElement('",
        escaped ["release", "id"], .text "'); return false;\">view builds</a>)"] := by
    simp only [fits_cons, fits_nil, fits_text, fits_escaped, true_and, and_true]
    rfl
  have hstyle : Fits (("release", p.releaseValue r) :: env)
      [.text " style=\"display: none\""] := by
    simp only [fits_cons, fits_nil, fits_text, and_self]
  simp only [releaseNodes, fits_cons, fits_nil, fits_text, fits_escaped, true_and, and_true]
  exact ⟨rfl, rfl, rfl, fits_whenTrue _ _ _ _ hbuilds hempty, rfl,
    fits_whenTrue _ _ _ _ hstyle hempty, fits_forEach _ _ _ _ _ rfl (p.fits_groups _ r)⟩

theorem fits_releases (p : ReleaseListPage) (env : Bindings) :
    ∀ v ∈ p.releases.map p.releaseValue, Fits (("release", v) :: env) releaseNodes := by
  intro v hv
  rcases List.mem_map.mp hv with ⟨r, -, rfl⟩
  exact p.fits_release env r

theorem fits_template (p : ReleaseListPage) : Fits p.bindings template.nodes := by
  simp only [template, fits_cons, fits_nil, fits_text, true_and, and_true]
  exact fits_forEach _ _ _ _ _ rfl (p.fits_releases _)

/-- The rows of a release have a link to all builds, one that shows the builds of a retired release,
    and one for each group of builds. -/
theorem ownTags_release (p : ReleaseListPage) (env : Bindings) (r : Release) :
    ownTags link (("release", p.releaseValue r) :: env) releaseNodes
        = 1 + r.isRetired.toNat + r.changelistGroups.length ∧
      ownTags line (("release", p.releaseValue r) :: env) releaseNodes = 2 := by
  rcases template_tags with ⟨-, -, hstraight, hlink, hline⟩
  have hknown : Known.Holds [(["release", "retired"], r.isRetired)]
      (("release", p.releaseValue r) :: env) :=
    holds_cons _ [] "release" ["retired"] _ rfl (holds_nil _)
  have hloops : loops releaseNodes = [forEach "group" ["release", "groups"] groupNodes] := rfl
  -- Links and lines are counted in the same way, with other numbers.
  have htags : ∀ tag k j, foretold? tag [(["release", "retired"], r.isRetired)]
        (straight releaseNodes) = some k → foretold? tag [] groupNodes = some j →
      ownTags tag (("release", p.releaseValue r) :: env) releaseNodes
        = k + r.changelistGroups.length * j := by
    intro tag k j hk hj
    rw [ownTags_of_straight tag _ _ hknown releaseNodes k (p.fits_release env r) hk, hloops,
      ownTags, ownTags, ownTags_forEach tag _ _ ["release", "groups"] _ _ rfl,
      sum_rounds _ j _ fun v hv => ?_, List.length_map, Nat.add_zero]
    exact ownTags_of_foretold tag [] _ (holds_nil _) groupNodes j (p.fits_groups _ r v hv) hj
  refine ⟨?_, ?_⟩
  · rw [htags link _ 1 (hstraight _).1 hlink, Nat.mul_one]
  · rw [htags line _ 0 (hstraight _).2 hline, Nat.mul_zero]

/-- The page has the links of its releases and two lines for each release. -/
theorem hasTags (p : ReleaseListPage) :
    HasTags p.render template p.bindings
      (p.releases.map fun r =>
        1 + (if r.isRetired then 1 else 0) + r.changelistGroups.length).sum
      (2 * p.releases.length) := by
  have hloops : loops template.nodes = [forEach "release" ["releases"] releaseNodes] := rfl
  -- All tags of this page are in its loop.
  have htags : ∀ tag, foretold? tag [] (straight template.nodes) = some 0 →
      ownTags tag p.bindings template.nodes
        = (p.releases.map fun r =>
          ownTags tag (("release", p.releaseValue r) :: p.bindings) releaseNodes).sum := by
    intro tag hk
    rw [ownTags_of_straight tag [] _ (holds_nil _) template.nodes 0 p.fits_template hk, hloops,
      ownTags, ownTags, ownTags_forEach tag _ _ ["releases"] _ _ rfl, List.map_map, Nat.zero_add,
      Nat.add_zero]
    rfl
  rcases hasTags_of_fits template p.bindings template_tags.1 p.fits_template with
    ⟨html, hhtml, howns, hlink, hline⟩
  refine ⟨html, hhtml, howns, ?_, ?_⟩
  · rw [hlink, htags link template_tags.2.1.1]
    refine congrArg List.sum (List.map_congr_left fun r _ => ?_)
    rw [(p.ownTags_release p.bindings r).1]
    cases r.isRetired <;> rfl
  · rw [hline, htags line template_tags.2.1.2,
      sum_rounds _ 2 _ fun r _ => (p.ownTags_release p.bindings r).2, Nat.mul_comm]

end ReleaseListPage

/-- No text brings a tag to any of the five pages. Each page can be rendered, all its tags are its
    template's own, and its links and lines are those of the records it shows. -/
theorem pages_hasTags :
    (∀ p : TestListPage,
      HasTags p.render TestListPage.template p.bindings
        p.rows.length (1 + max 1 p.rows.length)) ∧
    (∀ p : TestHistoryPage,
      HasTags p.render TestHistoryPage.template p.bindings
        p.tests.length (1 + max 1 p.rows.length)) ∧
    (∀ p : SuiteListPage,
      HasTags p.render SuiteListPage.template p.bindings
        (p.suites.filter (·.suiteId ≠ 0)).length (1 + max 1 p.rows.length)) ∧
    (∀ p : ReleaseListPage,
      HasTags p.render ReleaseListPage.template p.bindings
        (p.releases.map fun r =>
          1 + (if r.isRetired then 1 else 0) + r.changelistGroups.length).sum
        (2 * p.releases.length)) ∧
    (∀ p : TestInfoPage,
      HasTags p.render TestInfoPage.template p.bindings
        ((if p.inputMode then 0 else (p.visible.filter (·.link.isSome)).length) +
          if p.deleteLink.isSome then 1 else 0)
        p.visible.length) :=
  ⟨TestListPage.hasTags, TestHistoryPage.hasTags, SuiteListPage.hasTags, ReleaseListPage.hasTags,
    TestInfoPage.hasTags⟩

end RunReport
