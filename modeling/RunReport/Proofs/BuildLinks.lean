import RunReport.Libraries
import RunReport.Proofs.UrlQuery
import RunReport.Report
import RunReport.Manifest.Decode

/-!
# The Links of the List of Releases

What the links to builds search for.

These links are not made like the others. The search terms are written behind the text of the
configured address, and the address is not taken apart for it. Every byte of a version or a
changelist is written so that it is read back, but whether the terms get into the query depends on
the address: if it ends with its path they are the query, if it has a query of its own they go on in
the last value of it, and if it has a fragment they are not in the query at all. `search_reads`
tells the cases apart.

The addresses in a manifest were read from texts (`isRead_ofSettings`), and the text of an address
that was read is read again, so every link is an address.

## Main definitions

* `Url.TakesQuery`: A URL without a fragment and with no query, or one of question marks only.
* `ReleaseListPage.settingsAt`: The settings of a page with two addresses.

## Theorems

* `isRead_ofSettings`: The addresses of a manifest were read.
* `search_eq`: A search is a query of written pairs behind the text of the address.
* `read_goOn`: The parameters of an address that takes a query and goes on with one.
* `search_reads`: What is read from the address of a search.
* `links_carry_terms`: The links of the page carry their search terms.
* `links_carry_terms_plain`: The links of a page with two plain addresses.
* `links_lose_terms`: The links of pages whose address has a query or a fragment.
-/

namespace RunReport

open FormEncoding

/-! ### The addresses of a manifest -/

namespace Setting

/-- What a member of a table is read as comes from its reader. -/
theorem ok_of_readMember {α : Type} (read : Decoder α) (file name : String)
    (members : List (String × Setting)) (x : α)
    (h : readMember read file name members = .ok (some x)) : ∃ s, read file s = .ok x := by
  unfold readMember at h
  split at h
  · cases h
  · next s _ =>
      rcases ok_of_map (ok_of_mapError h) with ⟨y, hread, hy⟩
      rw [← Option.some.inj hy]
      exact ⟨s, hread⟩

section Addresses

variable [HostLibrary]

theorem isRead_readUrl (file : String) (s : Setting) (u : Url) (h : readUrl file s = .ok u) :
    u.IsRead := by
  rcases ok_of_bind h with ⟨text, -, hcheck⟩
  refine ⟨text, ?_⟩
  simp only at hcheck
  split at hcheck
  · next v hparse => exact hparse.trans (congrArg Except.ok (Except.ok.inj hcheck))
  · cases hcheck

theorem isRead_readOptional (file : String) (s : Setting) (u : Url)
    (h : readOptional readUrl file s = .ok (some u)) : u.IsRead := by
  unfold readOptional at h
  split at h
  · cases h
  · rcases ok_of_map h with ⟨v, hread, hv⟩
    rw [← Option.some.inj hv]
    exact isRead_readUrl _ _ v hread

end Addresses

end Setting

/-- What is required is there. -/
theorem Manifest.eq_some_of_required {α : Type} (name : String) (x? : Option α) (x : α)
    (h : required name x? = .ok x) : x? = some x := by
  cases x? with
  | none => cases h
  | some y => rw [Except.ok.inj h]

/-- The addresses of a manifest were read from texts. -/
theorem Manifest.isRead_ofSettings [HostLibrary] [PatternLibrary] (file : String)
    (settings : List (String × Setting)) (m : Manifest) (h : ofSettings file settings = .ok m) :
    m.formUrl.IsRead ∧ (m.summaryUrl.getD m.formUrl).IsRead := by
  -- All members are read first and taken afterwards; two of them matter here.
  rcases ok_of_bind h with ⟨name?, -, h⟩
  rcases ok_of_bind h with ⟨report?, -, h⟩
  rcases ok_of_bind h with ⟨formUrl?, hform, h⟩
  rcases ok_of_bind h with ⟨summaryUrl?, hsummary, h⟩
  rcases ok_of_bind h with ⟨adminUrl?, -, h⟩
  rcases ok_of_bind h with ⟨sources?, -, h⟩
  rcases ok_of_bind h with ⟨longRunning?, -, h⟩
  rcases ok_of_bind h with ⟨groupOrder?, -, h⟩
  rcases ok_of_bind h with ⟨filter?, -, h⟩
  rcases ok_of_bind h with ⟨attributes?, -, h⟩
  rcases ok_of_bind h with ⟨capabilities?, -, h⟩
  rcases ok_of_bind h with ⟨inputMode?, -, h⟩
  rcases ok_of_bind h with ⟨adminMode?, -, h⟩
  rcases ok_of_bind h with ⟨separator?, -, h⟩
  rcases ok_of_bind h with ⟨name, -, h⟩
  rcases ok_of_bind h with ⟨report, -, h⟩
  rcases ok_of_bind h with ⟨formUrl, hrequired, h⟩
  have hread : formUrl.IsRead := by
    rw [eq_some_of_required _ _ _ hrequired] at hform
    rcases Setting.ok_of_readMember _ file "form_url" settings formUrl hform with ⟨s, hs⟩
    exact Setting.isRead_readUrl file s formUrl hs
  rw [← Except.ok.inj h]
  refine ⟨hread, ?_⟩
  -- Without an address for summaries, or with one that is left open, it is the address of the page.
  cases summaryUrl? with
  | none => exact hread
  | some summaryUrl =>
      cases summaryUrl with
      | none => exact hread
      | some u =>
          rcases Setting.ok_of_readMember _ file "summary_url" settings (some u) hsummary with
            ⟨s, hs⟩
          exact Setting.isRead_readOptional file s u hs

/-- A URL without a fragment and with no query, or with one of question marks only. -/
def Url.TakesQuery (u : Url) : Prop :=
  u.fragment = none ∧ (u.query.getD "").toList.all (· = '?')

instance (u : Url) : Decidable u.TakesQuery :=
  inferInstanceAs (Decidable (_ ∧ _))

/-- An address that takes a query and goes on with one has the parameters of this query. -/
theorem Query.read_goOn (u : Url) (q : String) (h : u.TakesQuery) :
    read ((u.goOn q).query.getD "") = read q := by
  rcases h with ⟨hfragment, hmarks⟩
  unfold Url.goOn
  rw [hfragment]
  cases hquery : u.query with
  | none => rfl
  | some p =>
      rw [hquery, Option.getD_some] at hmarks
      have hall : (p ++ "?").toList.all (· = '?') := by
        rw [String.toList_append, List.all_append, hmarks]
        rfl
      exact read_marks (p ++ "?") q hall

namespace ReleaseListPage

/-! ### Searches -/

/-- A search is a query of written pairs behind the text of the address, since the names in it are
    written as they are. -/
theorem search_eq (base : Url) (pairs : List (String × String))
    (hnames : ∀ p ∈ pairs, encode p.1 = p.1) :
    search base pairs = base.text ++ "?" ++ Url.pairsText pairs := by
  have hpairs : pairs.map (fun p => p.1 ++ "=" ++ encode p.2) = pairs.map Url.pairText :=
    List.map_congr_left fun p hp => by rw [Url.pairText, hnames p hp]
  rw [Url.pairsText, ← hpairs]
  rfl

/-- The address of a search is read as the configured address going on with the terms. They are the
    parameters of its query if the configured address takes a query. With a fragment they are none
    of them, and behind a query of its own they go on in that query. -/
theorem search_reads [HostLibrary] (base : Url) (pairs : List (String × String))
    (hbase : base.IsRead) (hnames : ∀ p ∈ pairs, encode p.1 = p.1) :
    ∃ link, Url.parse (search base pairs) = .ok link ∧
      (base.TakesQuery → (Query.read (link.query.getD "")).parameters = pairs) ∧
      (base.fragment.isSome → link.query = base.query) ∧
      (base.fragment = none → ∀ own, base.query = some own →
        link.query = some (own ++ "?" ++ Url.pairsText pairs)) := by
  refine ⟨(base.goOn (Url.pairsText pairs)).reread, ?_, fun htakes => ?_, fun hsome => ?_, ?_⟩
  · rw [search_eq base pairs hnames]
    exact Url.parse_goOn base _ hbase (isQueryChar_pairsText pairs)
  all_goals rw [Url.query_reread]
  · rw [Query.read_goOn base _ htakes]
    exact Query.read_pairsText pairs
  · rcases Option.isSome_iff_exists.mp hsome with ⟨f, hf⟩
    rw [Url.goOn, hf]
  · intro hnone own hown
    rw [Url.goOn, hnone, hown]

/-- The names of the search terms are written as they are. -/
theorem encode_names : encode Parameter.buildVersion = Parameter.buildVersion ∧
    encode Parameter.changelistOp = Parameter.changelistOp ∧
    encode Parameter.changelist = Parameter.changelist := by
  decide +kernel

/-! ### Links -/

/-- The links of the page of a manifest carry their search terms if its addresses take a query: the
    link of a release the pattern for its builds, and the link of a group the version number of its
    first build as a pattern, and its changelist, or an empty one. -/
theorem links_carry_terms [HostLibrary] [PatternLibrary] (file : String)
    (settings : List (String × Setting)) (m : Manifest) (releases : List Release)
    (hm : Manifest.ofSettings file settings = .ok m) (hform : m.formUrl.TakesQuery)
    (hsummary : (m.summaryUrl.getD m.formUrl).TakesQuery) :
    let p := Report.releaseList m releases
    (∀ r, ∃ link, Url.parse (p.releaseLink r) = .ok link ∧
      (Query.read (link.query.getD "")).parameter Parameter.buildVersion = some r.version) ∧
    ∀ g, ∃ link, Url.parse (p.groupLink g) = .ok link ∧
      let q := Query.read (link.query.getD "")
      q.parameter Parameter.buildVersion = some ("%" ++ m.format.number g.head.version ++ "%") ∧
      q.parameter Parameter.changelistOp = some "eq" ∧
      q.parameter Parameter.changelist = some (g.changelist.getD "") := by
  rcases encode_names with ⟨hversion, hop, hchangelist⟩
  rcases Manifest.isRead_ofSettings file settings m hm with ⟨hformRead, hsummaryRead⟩
  refine ⟨fun r => ?_, fun g => ?_⟩
  · -- The link of a release is that of the form, and the link of a group that of the summary.
    rcases search_reads m.formUrl [(Parameter.buildVersion, r.version)] hformRead
      (by simpa using hversion) with ⟨link, hlink, hterms, -⟩
    refine ⟨link, hlink, ?_⟩
    rw [Query.parameter, hterms hform]
    rfl
  · have hnames : ∀ t ∈ [(Parameter.buildVersion, "%" ++ m.format.number g.head.version ++ "%"),
        (Parameter.changelistOp, "eq"), (Parameter.changelist, g.changelist.getD "")],
        encode t.1 = t.1 := by
      simp only [List.forall_mem_cons]
      exact ⟨hversion, hop, hchangelist, by simp⟩
    rcases search_reads _ _ hsummaryRead hnames with ⟨link, hlink, hterms, -⟩
    refine ⟨link, hlink, ?_⟩
    simp only [Query.parameter, hterms hsummary]
    exact ⟨rfl, rfl, rfl⟩

/-- The settings of a list of releases at an address, with another address for summaries. -/
def settingsAt (formUrl summaryUrl : String) : List (String × Setting) :=
  [("name", .text "releases"), ("report", .text "release"), ("form_url", .text formUrl),
    ("summary_url", .text summaryUrl)]

/-- The links of a page with two plain addresses. -/
theorem links_carry_terms_plain :
    let r : Release := { id := "5", name := "five", version := "5.2-%&b=c" }
    let g : ChangelistGroup := ⟨some "42", { version := "5.2-100-42" }, []⟩
    ∃ m, Manifest.ofSettings "settings" (settingsAt "http://h/r" "http://h/r??") = .ok m ∧
      m.formUrl.TakesQuery ∧ (m.summaryUrl.getD m.formUrl).TakesQuery ∧
      let p := Report.releaseList m [r]
      (∃ link, Url.parse (p.releaseLink r) = .ok link ∧
        (Query.read (link.query.getD "")).parameter Parameter.buildVersion = some "5.2-%&b=c") ∧
      ∃ link, Url.parse (p.groupLink g) = .ok link ∧
        let q := Query.read (link.query.getD "")
        q.parameter Parameter.buildVersion = some "%100%" ∧
        q.parameter Parameter.changelistOp = some "eq" ∧
        q.parameter Parameter.changelist = some "42" := by
  intro r g
  have hread : ((Manifest.ofSettings "settings"
      (settingsAt "http://h/r" "http://h/r??")).toOption.map fun m =>
        (m.formUrl.TakesQuery && (m.summaryUrl.getD m.formUrl).TakesQuery,
          m.format.number g.head.version)) = some (true, "100") := by
    decide +kernel
  rcases Option.map_eq_some_iff.mp hread with ⟨m, hm, hboth⟩
  rcases Prod.mk.inj hboth with ⟨htakes, hnumber⟩
  rw [Bool.and_eq_true, decide_eq_true_eq, decide_eq_true_eq] at htakes
  -- Only what is used of the manifest is computed, and the manifest is named for it.
  have hsettings : Manifest.ofSettings "settings" (settingsAt "http://h/r" "http://h/r??")
      = .ok m := by
    cases hof : Manifest.ofSettings "settings" (settingsAt "http://h/r" "http://h/r??") with
    | error fault =>
        rw [hof] at hm
        cases hm
    | ok m' =>
        rw [hof] at hm
        exact congrArg Except.ok (Option.some.inj hm)
  have hlinks := links_carry_terms "settings" _ m [r] hsettings htakes.1 htakes.2
  refine ⟨m, hsettings, htakes.1, htakes.2, hlinks.1 r, ?_⟩
  have hgroup := hlinks.2 g
  rwa [hnumber] at hgroup

/-- Behind a query of the address the pattern of a release becomes part of another value, and behind
    a fragment the terms of a group are not in the query. -/
theorem links_lose_terms :
    let r : Release := { id := "5", name := "five", version := "5.2-%" }
    let g : ChangelistGroup := ⟨some "42", { version := "5.2-100-42" }, []⟩
    let parametersOf (settings : List (String × Setting)) (linkOf : ReleaseListPage → String) :
        Option (List (String × String)) := do
      let m ← (Manifest.ofSettings "settings" settings).toOption
      let link ← (Url.parse (linkOf (Report.releaseList m [r]))).toOption
      some (Query.read (link.query.getD "")).parameters
    parametersOf (settingsAt "http://h/r?product=x" "http://h/r") (releaseLink · r)
        = some [("product", "x?buildVersion=5.2-%")] ∧
      parametersOf (settingsAt "http://h/r" "http://h/r#top") (groupLink · g) = some [] := by
  decide +kernel

end ReleaseListPage

end RunReport
