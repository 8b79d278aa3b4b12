import Mathlib.Data.List.SplitBy
import RunReport.Proofs.ChangelistVersion
import RunReport.Proofs.NodeText
import RunReport.Proofs.PageTags

/-!
# Runs of Builds

The groups that the builds of a release fall into, and how the page shows them.

`ChangelistGroup.ofBuilds` goes through the builds and lets each join the group that follows it or
start one of its own. What comes of it is described without the walk: the builds cut into runs of
one changelist each, as long as they can be, where builds of no changelist stay alone
(`Decomposes`). One more build in front keeps this (`decomposes_push`), so the walk ends in such
runs.

There are no others. That two builds belong to the same run shows in the two builds alone
(`ChangelistGroup.joins`), so runs are what is cut between builds that do not join, and a list is
cut at given places in one way (`Decomposes.splitBy_eq`).

On the page the builds of a release stand in an element of their own, with one link for each run and
nothing in between (`divText`). A group of a changelist has builds of that changelist, so there is a
version that it is known by, and the link shows it as its title. Builds that share nothing have the
empty version in common. It is shown like any other, and only a group of no changelist has a link
without a title.

## Main definitions

* `ChangelistGroup.joins`: Builds that belong to the same run if they follow each other.
* `ChangelistGroup.run`: A group as a changelist and some builds.
* `Decomposes`: Builds in runs as long as they can be.
* `ReleaseListPage.titleOf`, `linkText`, `divText`: What the page shows of a group and a release.

## Theorems

* `decomposes_push`, `decomposes_ofBuilds`: Builds in groups are builds in such runs.
* `Decomposes.splitBy_eq`, `Decomposes.unique`: There is one way to have such runs.
* `exists_version`: The builds of a group have a version in common.
* `contains_divText`: The page has the element of each release.
* `changelistGroups_runs`: The groups of a release as runs, and as links of the page.
* `changelistGroups_runs_table`: Runs of three changelists, one of them twice, and of none.
* `title_without_version`: A title for builds that have nothing in common.
-/

namespace RunReport

/-! ### Runs -/

/-- Some builds make a run of a changelist: there are some, all of them are of this changelist, and
    a build of no changelist is alone. -/
structure IsRun (run : Option String × List Build) : Prop where
  ne_nil : run.2 ≠ []
  same : ∀ b ∈ run.2, b.changelist = run.1
  alone : run.1 = none → run.2.length = 1

/-- Some builds in runs as long as they can be: put together the runs are the builds in their order,
    and no run is followed by one of the same changelist. -/
structure Decomposes (builds : List Build) (runs : List (Option String × List Build)) : Prop where
  flatten_eq : (runs.map Prod.snd).flatten = builds
  isRun : ∀ run ∈ runs, IsRun run
  parted : runs.IsChain fun run next => run.1.isSome → run.1 ≠ next.1

/-- A build is a run. -/
theorem isRun_singleton (b : Build) : IsRun (b.changelist, [b]) := by
  refine ⟨List.cons_ne_nil b [], fun c hc => ?_, fun _ => rfl⟩
  rw [List.mem_singleton.mp hc]

/-- A build of the same changelist makes a run longer. -/
theorem IsRun.cons (c : Option String) (b : Build) (bs : List Build) (h : IsRun (c, bs))
    (hsome : b.changelist.isSome) (hsame : b.changelist = c) : IsRun (c, b :: bs) := by
  refine ⟨List.cons_ne_nil b bs, List.forall_mem_cons.mpr ⟨hsame, h.same⟩, fun hnone => ?_⟩
  rw [hsame] at hsome
  exact absurd hnone (Option.isSome_iff_ne_none.mp hsome)

namespace ChangelistGroup

/-- Builds that belong to the same run if they follow each other. -/
def joins (a b : Build) : Bool :=
  a.changelist.isSome && a.changelist == b.changelist

/-- A group as a changelist and some builds. -/
def run (g : ChangelistGroup) : Option String × List Build :=
  (g.changelist, g.builds)

/-- One more build in front joins the first run or is a run. -/
theorem decomposes_push (b : Build) (builds : List Build) (gs : List ChangelistGroup)
    (h : Decomposes builds (gs.map run)) : Decomposes (b :: builds) ((push b gs).map run) := by
  have hflatten := h.flatten_eq
  cases gs with
  | nil =>
      refine ⟨?_, List.forall_mem_singleton.mpr (isRun_singleton b), List.isChain_singleton _⟩
      rw [← hflatten]
      rfl
  | cons g gs =>
      rcases List.forall_mem_cons.mp h.isRun with ⟨hg, hgs⟩
      rw [push]
      by_cases hjoin : b.changelist.isSome ∧ b.changelist = g.changelist
      · -- The first run gets longer and keeps its changelist, so it still differs from the next.
        have hlonger := IsRun.cons g.changelist b g.builds hg hjoin.1 hjoin.2
        have hparted := List.isChain_cons.mp h.parted
        rw [if_pos hjoin]
        refine ⟨?_, List.forall_mem_cons.mpr ⟨hlonger, hgs⟩,
          List.isChain_cons.mpr ⟨hparted.1, hparted.2⟩⟩
        rw [← hflatten]
        rfl
      · rw [if_neg hjoin]
        refine ⟨?_, List.forall_mem_cons.mpr ⟨isRun_singleton b, h.isRun⟩,
          List.isChain_cons_cons.mpr ⟨fun hsome hsame => hjoin ⟨hsome, hsame⟩, h.parted⟩⟩
        rw [← hflatten]
        rfl

/-- Builds in groups are builds in runs as long as they can be, by induction on the builds. -/
theorem decomposes_ofBuilds (builds : List Build) :
    Decomposes builds ((ofBuilds builds).map run) := by
  induction builds with
  | nil =>
      exact ⟨rfl, fun r hr => absurd hr List.not_mem_nil, List.isChain_nil⟩
  | cons b builds ih => exact decomposes_push b builds (ofBuilds builds) ih

end ChangelistGroup

open ChangelistGroup

/-- Runs are cut between builds that do not join. -/
theorem Decomposes.splitBy_eq (builds : List Build) (runs : List (Option String × List Build))
    (h : Decomposes builds runs) : builds.splitBy joins = runs.map Prod.snd := by
  refine List.splitBy_eq_iff.mpr ⟨h.flatten_eq.symm, ?_, ?_, ?_⟩
  · intro hnil
    rcases List.mem_map.mp hnil with ⟨r, hr, heq⟩
    exact (h.isRun r hr).ne_nil heq
  · -- Inside a run of a changelist any two builds join; another run has only one build.
    rw [List.forall_mem_map]
    intro r hr
    have hrun := h.isRun r hr
    cases hchangelist : r.1 with
    | none =>
        rcases List.length_eq_one_iff.mp (hrun.alone hchangelist) with ⟨b, hb⟩
        rw [hb]
        exact List.isChain_singleton b
    | some c =>
        refine (List.pairwise_of_forall_mem_list fun a ha b hb => ?_).isChain
        rw [joins, hrun.same a ha, hrun.same b hb, hchangelist]
        exact beq_self_eq_true (some c)
  · rw [List.isChain_map]
    refine h.parted.imp_of_mem_imp fun r next hr hnext hparted => ?_
    have hrun := h.isRun r hr
    have hnextRun := h.isRun next hnext
    refine ⟨hrun.ne_nil, hnextRun.ne_nil, ?_⟩
    rw [joins, hrun.same _ (List.getLast_mem _), hnextRun.same _ (List.head_mem _)]
    cases hchangelist : r.1 with
    | none => rfl
    | some c =>
        rw [hchangelist] at hparted
        exact beq_false_of_ne (hparted rfl)

/-- There is one way to have such runs: the cuts are given, and each run has the changelist of its
    builds. -/
theorem Decomposes.unique (builds : List Build) (runs runs' : List (Option String × List Build))
    (h : Decomposes builds runs) (h' : Decomposes builds runs') : runs = runs' := by
  have hkey : ∀ rs, Decomposes builds rs →
      rs = (rs.map Prod.snd).map fun bs => (bs.head?.bind (·.changelist), bs) := by
    intro rs hrs
    rw [List.map_map]
    refine (List.map_id rs).symm.trans (List.map_congr_left fun r hr => ?_)
    have hrun := hrs.isRun r hr
    rcases List.exists_cons_of_ne_nil hrun.ne_nil with ⟨b, bs, hbs⟩
    have hb := hrun.same b (by rw [hbs]; exact List.mem_cons_self)
    simp only [id_eq, Function.comp_apply, hbs, List.head?_cons, Option.bind_some, hb]
    rw [← hbs]
  rw [hkey runs h, hkey runs' h', ← h.splitBy_eq, ← h'.splitBy_eq]

/-! ### Links -/

namespace Release

variable (r : Release)

theorem decomposes_changelistGroups :
    Decomposes r.builds (r.changelistGroups.map ChangelistGroup.run) :=
  decomposes_ofBuilds r.builds

/-- The builds of a group are builds of the release. -/
theorem mem_builds_of_mem (g : ChangelistGroup) (hg : g ∈ r.changelistGroups) (b : Build)
    (hb : b ∈ g.builds) : b ∈ r.builds := by
  rw [← r.decomposes_changelistGroups.flatten_eq, List.map_map]
  exact List.mem_flatten.mpr ⟨g.builds, List.mem_map_of_mem hg, hb⟩

/-- The builds of a group of a changelist have a version in common, if only the empty one. -/
theorem exists_version (g : ChangelistGroup) (hg : g ∈ r.changelistGroups) (c : String)
    (hc : g.changelist = some c) (f : VersionFormat) : ∃ v, r.versionOf c f = some v := by
  have hrun := r.decomposes_changelistGroups.isRun g.run (List.mem_map_of_mem hg)
  have hhead : g.head ∈ r.buildsOf c := by
    refine List.mem_filter.mpr ⟨r.mem_builds_of_mem g hg g.head List.mem_cons_self, ?_⟩
    rw [decide_eq_true_eq, ← hc]
    exact hrun.same g.head List.mem_cons_self
  rw [versionOf_eq]
  cases hbuilds : r.buildsOf c with
  | nil =>
      rw [hbuilds] at hhead
      exact absurd hhead List.not_mem_nil
  | cons first others => exact ⟨_, rfl⟩

end Release

namespace ReleaseListPage

open Template Page

variable (p : ReleaseListPage) (r : Release) (g : ChangelistGroup)

/-- The title of the link of a group: the version of its changelist, if it has one. -/
def titleOf : Option String :=
  g.changelist.bind fun c => r.versionOf c p.format

/-- A title as it stands in a link. -/
def titleText (title : Option String) : String :=
  title.elim "" fun v => String.join [" title=\"", Markup.escape v, "\""]

/-- The link of a group. -/
def linkText : String :=
  String.join ["<a href=\"", Markup.escape (p.groupLink g), "\"", titleText (p.titleOf r g), ">",
    Markup.escape (p.groupLabel g), "</a><br/>\n"]

/-- The element with the builds of a release. -/
def divText : String :=
  String.join ["      <div id=\"", Markup.escape r.id, "\"",
    if r.isRetired then " style=\"display: none\"" else "", ">\n",
    String.join (r.changelistGroups.map (p.linkText r)), "      </div>\n"]

variable (env : Bindings)

/-- The nodes for the element of a release. -/
def divNodes : List Node :=
  [.text "      <div id=\"", escaped ["release", "id"], .text "\"",
    whenTrue ["release", "retired"] [.text " style=\"display: none\""], .text ">\n",
    forEach "group" ["release", "groups"] groupNodes, .text "      </div>\n"]

theorem render_link :
    renderNodes (("group", p.groupValue r g) :: env) groupNodes = some (p.linkText r g) := by
  have htitle : (whenTrue ["group", "version"]
      [.text " title=\"", escaped ["group", "version"], .text "\""]).render
        (("group", p.groupValue r g) :: env) = some (titleText (p.titleOf r g)) := by
    have hvalue : (operandOf ["group", "version"]).value? (("group", p.groupValue r g) :: env)
        = some (.maybe (p.titleOf r g)) := rfl
    refine render_whenMaybe _ _ _ _ _ _ _ hvalue (fun v hv => renderNodes_of_writes _ _ _ ?_) ?_
    · rw [hv] at hvalue
      simp only [writes_cons, writes_nil, render_text, true_and, and_true]
      exact render_escaped _ _ v hvalue
    · rw [renderNodes]
  refine renderNodes_of_writes _ _ _ ?_
  simp only [groupNodes, writes_cons, writes_nil, render_text, true_and, and_true]
  exact ⟨render_escaped _ _ _ rfl, htitle, render_escaped _ _ _ rfl⟩

theorem render_div :
    renderNodes (("release", p.releaseValue r) :: env) divNodes = some (p.divText r) := by
  have hstyle : renderNodes (("release", p.releaseValue r) :: env)
      [.text " style=\"display: none\""] = some " style=\"display: none\"" :=
    renderNodes_singleton _ _ _ (render_text _ _)
  refine renderNodes_of_writes _ _ _ ?_
  simp only [divNodes, writes_cons, writes_nil, render_text, true_and, and_true]
  exact ⟨render_escaped _ _ _ rfl,
    render_whenFlag _ _ _ _ _ _ _ rfl hstyle (by rw [renderNodes]),
    render_forEach _ _ _ _ _ (p.groupValue r) _ rfl fun g _ => p.render_link r g _⟩

/-- The page has the element of each release. -/
theorem contains_divText (hr : r ∈ p.releases) (html : String) (h : p.render = some html) :
    Contains html (p.divText r) := by
  have hloop : forEach "release" ["releases"] releaseNodes ∈ template.nodes :=
    List.mem_cons_of_mem _ List.mem_cons_self
  have hsplit : releaseNodes = releaseNodes.take 15 ++ divNodes ++ releaseNodes.drop 22 := rfl
  rcases contains_of_mem _ _ _ html hloop h with ⟨s, hs, hpage⟩
  rcases contains_round _ _ _ _ _ _ s rfl (List.mem_map_of_mem hr) hs with ⟨t, ht, hrounds⟩
  rw [hsplit] at ht
  rcases contains_of_append _ _ _ _ t ht with ⟨u, hu, hround⟩
  rw [Option.some.inj ((p.render_div r _).symm.trans hu)]
  exact (hpage.trans _ _ _ hrounds).trans _ _ _ hround

end ReleaseListPage

/-- The groups of a release are its builds in runs as long as they can be, and there is no other way
    to have such runs. A page with the release has its builds in an element of their own, with one
    link for each run, and all links of the page are those of its releases. A link has a title
    exactly if the run has a changelist, and that is the version that the changelist is known by,
    also if it is empty. -/
theorem Release.changelistGroups_runs (r : Release) :
    let runs := r.changelistGroups.map ChangelistGroup.run
    Decomposes r.builds runs ∧
    (∀ runs', Decomposes r.builds runs' → runs' = runs) ∧
    (∀ g ∈ r.changelistGroups, g.builds.head? = some g.head) ∧
    ∀ p : ReleaseListPage, r ∈ p.releases →
      (∃ html, p.render = some html ∧ Template.Contains html (p.divText r) ∧
        Markup.count "<a href=" html
          = (p.releases.map fun r =>
            1 + (if r.isRetired then 1 else 0) + r.changelistGroups.length).sum) ∧
      ∀ g ∈ r.changelistGroups,
        (g.changelist = none → p.titleOf r g = none) ∧
        ∀ c, g.changelist = some c → ∃ v, r.versionOf c p.format = some v ∧
          p.titleOf r g = some v := by
  intro runs
  have hruns := r.decomposes_changelistGroups
  refine ⟨hruns, fun runs' h => h.unique _ _ _ hruns, fun g _ => rfl, fun p hr => ⟨?_, ?_⟩⟩
  · -- How many links a page has is known of its tags, and which they are of its text.
    rcases p.hasTags with ⟨html, hhtml, -, hlinks, -⟩
    exact ⟨html, hhtml, p.contains_divText r hr html hhtml, hlinks⟩
  · intro g hg
    refine ⟨fun hnone => ?_, fun c hc => ?_⟩
    · rw [ReleaseListPage.titleOf, hnone]
      rfl
    · rcases r.exists_version g hg c hc p.format with ⟨v, hv⟩
      refine ⟨v, hv, ?_⟩
      rw [ReleaseListPage.titleOf, hc]
      exact hv

/-- Builds of two changelists, one of them twice, and two builds of none. -/
theorem Release.changelistGroups_runs_table :
    let build (version : String) (changelist : Option String) : Build := { version, changelist }
    let b1 := build "5.2-100-1" (some "10")
    let b2 := build "5.2-100-2" (some "10")
    let b3 := build "5.2-101-1" (some "11")
    let b4 := build "5.2-102-1" none
    let b5 := build "5.2-102-2" none
    let b6 := build "5.2-100-3" (some "10")
    let r : Release := { id := "r", name := "five", version := "5.2-%"
                         builds := [b1, b2, b3, b4, b5, b6] }
    let p : ReleaseListPage := { formUrl := { scheme := "http", path := "/r" }, releases := [r] }
    let runs : List (Option String × List Build) :=
      [(some "10", [b1, b2]), (some "11", [b3]), (none, [b4]), (none, [b5]), (some "10", [b6])]
    r.changelistGroups.map ChangelistGroup.run = runs ∧ Decomposes r.builds runs ∧
    r ∈ p.releases ∧
    ∃ html, p.render = some html ∧ Template.Contains html (p.divText r) ∧
      Markup.count "<a href=" html = 6 := by
  intro build b1 b2 b3 b4 b5 b6 r p runs
  have hruns : r.changelistGroups.map ChangelistGroup.run = runs := by decide +kernel
  have hmem : r ∈ p.releases := List.mem_cons_self
  rcases r.changelistGroups_runs with ⟨hdecomposes, -, -, hpages⟩
  rcases hpages p hmem with ⟨⟨html, hhtml, hdiv, hlinks⟩, -⟩
  have hcount : (p.releases.map fun r =>
      1 + (if r.isRetired then 1 else 0) + r.changelistGroups.length).sum = 6 := by decide +kernel
  exact ⟨hruns, hruns ▸ hdecomposes, hmem, html, hhtml, hdiv, hlinks.trans hcount⟩

/-- Two builds of a changelist that have nothing in common. Their version is empty, and the link has
    a title all the same. -/
theorem ReleaseListPage.title_without_version :
    let build (version : String) : Build := { version, changelist := some "10", releaseId := "GA" }
    let r : Release := { id := "r", name := "five", version := "5.2-%"
                         builds := [build "5.2-100-42", build "6.0-1-1"] }
    let p : ReleaseListPage := { formUrl := { scheme := "http", path := "/r" }, releases := [r] }
    let g : ChangelistGroup := ⟨some "10", build "5.2-100-42", [build "6.0-1-1"]⟩
    r.changelistGroups = [g] ∧ r.versionOf "10" p.format = some "" ∧
    (∃ html, p.render = some html ∧ Template.Contains html
      ("<a href=\"http:/r?buildVersion=%25100%25&amp;changelistOp=eq&amp;changelist=10\""
        ++ " title=\"\">100 GA</a><br/>\n")) ∧
    ¬ ∀ g ∈ r.changelistGroups, (p.titleOf r g).isSome ↔
      ∃ c v, g.changelist = some c ∧ r.versionOf c p.format = some v ∧ v ≠ "" := by
  intro build r p g
  have hgroups : r.changelistGroups = [g] := by decide +kernel
  have hversion : r.versionOf "10" p.format = some "" := by decide +kernel
  have hlink : p.divText r = "      <div id=\"r\">\n"
      ++ ("<a href=\"http:/r?buildVersion=%25100%25&amp;changelistOp=eq&amp;changelist=10\""
        ++ " title=\"\">100 GA</a><br/>\n") ++ "      </div>\n" := by decide +kernel
  rcases p.hasTags with ⟨html, hhtml, -⟩
  have hdiv := p.contains_divText r List.mem_cons_self html hhtml
  refine ⟨hgroups, hversion, ⟨html, hhtml, hdiv.trans _ _ _ ⟨_, _, hlink⟩⟩, fun h => ?_⟩
  have htitle : (p.titleOf r g).isSome = true := by
    rw [titleOf, Option.bind_some, hversion]
    rfl
  rcases (h g (hgroups ▸ List.mem_cons_self)).mp htitle with ⟨c, v, hc, hv, hne⟩
  rw [← Option.some.inj hc, hversion] at hv
  exact hne (Option.some.inj hv).symm

end RunReport
