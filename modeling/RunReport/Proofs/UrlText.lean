import RunReport.Proofs.AuthorityText
import RunReport.Proofs.UrlParts

/-!
# URLs Read Back

A URL that was read is written as a text that is read as the same URL.

What is known of a URL that was read is `Settled`: each of its parts is in the form in which the
reader leaves it, and `Front` says which forms of authority and path go together with a scheme. The
two halves of the proof meet there. What is read is settled, whatever the text was, and a settled
URL is read from its own text, since every cut is made where the text was put together: the scheme
has no colon, the authority nothing that ends it, the path no question mark, the query no hash.

One thing is not kept. The drive of a file may be written with a bar, which stays if there were
empty segments before it. These are left out, so from its own text such a URL is read with a colon.
`reread` is the URL of that second reading, which is then kept.

## Main definitions

* `tail`: The query and the fragment with the signs before them.
* `reread`: A URL as its text is read.
* `Front`: What stands before the query of a URL that was read.
* `Settled`: A URL as it is when it was read.

## Theorems

* `toList_text`: The text of a URL from its parts.
* `settled_afterSlashes`, `settled_readFile`, `settled_readOther`: What is read in the way of each
  kind of schemes is settled.
* `settled_parse`: What is read as a URL is settled.
* `afterSlashes_text`, `readFile_text`, `readOther_text`: A settled URL is read from its text in
  the way of each kind.
* `parse_text`: A settled URL is read from its text.
* `reads_back`: A URL that was read is read from its text.
-/

namespace RunReport

namespace Url

open Scheme (Kind)

/-! ### Texts of URLs -/

/-- The query and the fragment of a URL with the signs before them. -/
def tail (u : Url) : List Char :=
  tailText (u.query.map String.toList) (u.fragment.map String.toList)

theorem toList_text (u : Url) : u.text.toList =
    u.scheme.toList ++ ':' :: (u.front.toList ++ (u.path.toList ++ u.tail)) := by
  -- The fragment is written behind everything else, so it is added last.
  have hfront : u.textWithoutFragment.toList = u.scheme.toList ++ ':' ::
      (u.front.toList ++ (u.path.toList ++ (u.query.map String.toList).elim [] ('?' :: ·))) := by
    unfold textWithoutFragment
    cases u.query with
    | none =>
        simp only [String.toList_append, String.append_empty, Option.map_none, Option.elim_none,
          List.append_nil, List.append_assoc]
        rfl
    | some q =>
        simp only [String.toList_append, Option.map_some, Option.elim_some, List.append_assoc]
        rfl
  unfold text tail tailText
  cases u.fragment with
  | none =>
      simp only [hfront, Option.map_none, Option.elim_none, List.append_nil]
  | some f =>
      simp only [String.toList_append, hfront, Option.map_some, Option.elim_some, List.append_assoc,
        List.cons_append]
      rfl

/-- The query and the fragment begin with their signs, which end everything before. -/
theorem tail_eq_nil_or (u : Url) :
    u.tail = [] ∨ ∃ c rest, u.tail = c :: rest ∧ (c = '?' ∨ c = '#') := by
  unfold tail tailText
  cases u.query with
  | some q => exact Or.inr ⟨_, _, rfl, Or.inl rfl⟩
  | none =>
      cases u.fragment with
      | some f => exact Or.inr ⟨_, _, rfl, Or.inr rfl⟩
      | none => exact Or.inl rfl

theorem front_of_some (u : Url) (a : Authority) (h : u.authority = some a) :
    u.front.toList = '/' :: '/' :: a.text.toList := by
  rw [front, h, String.toList_append]
  rfl

/-- A path that would read as an authority has a dot in front. -/
theorem front_of_none (u : Url) (h : u.authority = none) :
    u.front.toList = if ['/', '/'] <+: u.path.toList then ['/', '.'] else [] := by
  rw [front, h]
  by_cases hslashes : ['/', '/'] <+: u.path.toList
  · have hstarts : u.path.startsWith "//" = true := String.startsWith_string_iff.mpr hslashes
    rw [if_pos hslashes]
    simp only [hstarts, if_true]
    rfl
  · have hstarts : u.path.startsWith "//" = false := by
      rw [← Bool.not_eq_true, String.startsWith_string_iff]
      exact hslashes
    rw [if_neg hslashes]
    simp only [hstarts]
    rfl

/-- A host is no drive. -/
theorem isDrive_of_shaped (host : List Char) (h : Host.Shaped host) : isDrive host = false := by
  rw [← Bool.not_eq_true, isDrive_iff]
  rintro ⟨c, d, rfl, hletter, hd⟩
  rcases h.colons with hnone | ⟨inner, hbrackets, -⟩
  · rcases hd with rfl | rfl
    · exact hnone ':' (by simp) (by decide)
    · exact hnone '|' (by simp) (by decide)
  · rw [(List.cons.inj hbrackets).1] at hletter
    cases hletter

/-- The authority of a file is its host. -/
theorem text_host (host : String) : ({ host } : Authority).text = host := by
  simp [Authority.text, Authority.credentials]

/-- A URL as its text is read. The drive of a file has a colon then. -/
def reread (u : Url) : Url :=
  if u.scheme = "file" then { u with path := String.ofList (withDriveColon u.path.toList) } else u

theorem query_reread (u : Url) : u.reread.query = u.query := by
  unfold reread
  split <;> rfl

section Settled

variable [HostLibrary]

/-- A host of a file as it is when it was read: none, or a name that is not that of the computer
    itself, before a path without a drive. -/
def IsFileHost (host : String) (path : List Char) : Prop :=
  host = "" ∨ Host.read host.toList = .ok host.toList ∧ Host.Shaped host.toList ∧
    host.toList ≠ [] ∧ host ≠ "localhost" ∧ startsWithDrive path = false

theorem IsFileHost.inside {host : String} {path : List Char} (h : IsFileHost host path) :
    ∀ c ∈ host.toList, Host.Inside c := by
  rcases h with rfl | ⟨-, hshaped, -⟩
  · exact fun c hc => absurd hc List.not_mem_nil
  · exact hshaped.inside

/-- What stands before the query of a URL that was read, for each kind of schemes. -/
inductive Front : Kind → String → Option Authority → List Char → Prop
  | common (scheme : String) (a : Authority) (path : List Char) (segs : List (List Char)) :
      a.Settled .common scheme → Resolved .common path segs → Front .common scheme (some a) path
  | file (host : String) (path : List Char) (segs : List (List Char)) :
      IsFileHost host path → Resolved .file path segs → Front .file "file" (some { host }) path
  | hosted (scheme : String) (a : Authority) (path : List Char) :
      a.Settled .other scheme → (path = [] ∨ ∃ segs, Resolved .other path segs) →
      Front .other scheme (some a) path
  | rooted (scheme : String) (path : List Char) (segs : List (List Char)) :
      Resolved .other path segs → Front .other scheme none path
  | bare (scheme : String) (path : List Char) :
      Percent.Plain Percent.nowhere path → (∀ c ∈ path, c ≠ '?' ∧ c ≠ '#') →
      path.head? ≠ some '/' → Front .other scheme none path

/-- A URL as it is when it was read. -/
structure Settled (u : Url) : Prop where
  scheme : IsScheme u.scheme.toList
  front : Front (Scheme.kind u.scheme) u.scheme u.authority u.path.toList
  query : ∀ q ∈ u.query, Percent.Plain (needsInQuery (Scheme.kind u.scheme)) q.toList
  fragment : ∀ f ∈ u.fragment, Percent.Plain Percent.inFragment f.toList
  last : u.query = none → u.fragment = none → ∀ c ∈ u.path.toList.getLast?, 0x20 < c.toNat

/-! ### What is read is settled -/

/-- A URL put together from a front that was read is settled. -/
theorem settled_assembled (scheme : String) (authority : Option Authority) (path : List Char)
    (query fragment : Option (List Char)) (hscheme : IsScheme scheme.toList)
    (hfront : Front (Scheme.kind scheme) scheme authority path)
    (hlast : query = none → fragment = none → ∀ c ∈ path.getLast?, 0x20 < c.toNat) :
    (assembled (Scheme.kind scheme) scheme authority path query fragment).Settled := by
  constructor
  case scheme => exact hscheme
  case front =>
    rw [assembled]
    simp only [String.toList_ofList]
    exact hfront
  case query =>
    intro q hq
    rcases Option.map_eq_some_iff.mp hq with ⟨cs, -, rfl⟩
    rw [String.toList_ofList]
    exact Percent.plain_encode _ cs (needsInQuery_spec _).1
  case fragment =>
    intro f hf
    rcases Option.map_eq_some_iff.mp hf with ⟨cs, -, rfl⟩
    rw [String.toList_ofList]
    exact Percent.plain_encode _ cs (by decide +kernel)
  case last =>
    intro hq hf
    rw [assembled]
    simp only [String.toList_ofList]
    exact hlast (Option.map_eq_none_iff.mp hq) (Option.map_eq_none_iff.mp hf)

/-- What is read behind two slashes is settled. -/
theorem settled_afterSlashes (scheme : String) (cs : List Char) (u : Url)
    (hfile : Scheme.kind scheme ≠ .file) (hscheme : IsScheme scheme.toList)
    (h : afterSlashes (Scheme.kind scheme) scheme cs = .ok u) : u.Settled := by
  unfold afterSlashes at h
  simp only at h
  rcases ok_of_bind h with ⟨a, ha, hu⟩
  have hsettled := settled_readAuthority _ scheme _ _ a ha
  have hpath := rootedPath_spec (Scheme.kind scheme) (splitTail
    (cs.drop (cs.takeWhile fun c => !endsAuthority (Scheme.kind scheme) c).length)).1
  rw [← Except.ok.inj hu]
  -- Only for other schemes there may be no path, so the kinds of schemes are taken one by one.
  refine settled_assembled scheme (some a) _ _ _ hscheme ?_ fun _ _ => ?_
  · cases hkind : Scheme.kind scheme with
    | file => exact absurd hkind hfile
    | common =>
        rw [hkind] at hsettled hpath
        rcases hpath with ⟨-, hother⟩ | ⟨segs, hsegs⟩
        · cases hother
        · exact Front.common scheme a _ segs hsettled hsegs
    | other =>
        rw [hkind] at hsettled hpath
        refine Front.hosted scheme a _ hsettled ?_
        rcases hpath with ⟨hnil, -⟩ | hsegs
        · exact Or.inl hnil
        · exact Or.inr hsegs
  · rcases hpath with ⟨hnil, -⟩ | ⟨segs, hsegs⟩
    · rw [hnil]
      exact fun c hc => absurd hc (by simp)
    · exact last_of_resolved _ _ segs hsegs

/-- A host of a file that was read is none, or a name. -/
theorem fileParts_spec (cs host path : List Char) (h : fileParts cs = .ok (host, path)) :
    host = [] ∨ Host.read host = .ok host ∧ Host.Shaped host ∧ host ≠ [] ∧
      host ≠ "localhost".toList := by
  have hnone : ∀ path', Except.ok ([], path') = (.ok (host, path) : Except UrlFault _) →
      host = [] := fun path' heq => ((Prod.mk.inj (Except.ok.inj heq)).1).symm
  unfold fileParts at h
  split at h
  · split at h
    · unfold fileHost at h
      simp only at h
      split at h
      · exact Or.inl (hnone _ h)
      split at h
      · exact Or.inl (hnone _ h)
      -- What is no drive is a name, and the name of the computer itself is left out again.
      rcases ok_of_bind h with ⟨name, hname, hpair⟩
      rcases Host.read_spec _ name hname with ⟨hread, hne, hshaped⟩
      have hhost := (Prod.mk.inj (Except.ok.inj hpair)).1
      split at hhost
      · exact Or.inl hhost.symm
      · next hlocal =>
          rw [← hhost]
          exact Or.inr ⟨hread, hshaped, hne, hlocal⟩
    · exact Or.inl (hnone _ h)
  · exact Or.inl (hnone _ h)

/-- What is read as a file is settled. -/
theorem settled_readFile (cs : List Char) (u : Url) (h : readFile cs = .ok u) : u.Settled := by
  unfold readFile at h
  simp only at h
  rcases ok_of_bind h with ⟨⟨host, path⟩, hparts, hu⟩
  rcases rootedPath_spec .file path with ⟨-, hkind⟩ | ⟨segs, hsegs⟩
  · cases hkind
  rw [← Except.ok.inj hu]
  refine settled_assembled "file" _ _ _ _ isScheme_file ?_ fun _ _ =>
    last_of_resolved _ _ segs hsegs
  refine Front.file _ _ segs ?_ hsegs
  -- Before a drive there is no host, whatever the text had there.
  by_cases hdrive : startsWithDrive (rootedPath .file path)
  · rw [if_pos hdrive]
    exact Or.inl rfl
  · rw [if_neg hdrive]
    rcases fileParts_spec _ host path hparts with rfl | ⟨hread, hshaped, hne, hlocal⟩
    · exact Or.inl rfl
    · refine Or.inr ?_
      rw [String.toList_ofList]
      refine ⟨hread, hshaped, hne, fun heq => hlocal ?_, Bool.not_eq_true _ ▸ hdrive⟩
      rw [← heq, String.toList_ofList]

/-- The path of a URL without an authority is settled. -/
theorem front_barePath (scheme : String) (cs : List Char) (hcs : ∀ c ∈ cs, c ≠ '?' ∧ c ≠ '#') :
    Front .other scheme none (barePath cs) := by
  unfold barePath
  split
  · next rest =>
      rcases resolved_pathText .other rest with ⟨segs, hsegs⟩
      exact Front.rooted scheme _ segs hsegs
  · next hslash =>
      -- Without a slash in front the path is not resolved, only written by its bytes.
      have hsigns : ∀ c ∈ Percent.signs, (c ≠ '?' ∧ c ≠ '#') ∧ c ≠ '/' :=
        List.all_iff_forall_prop.mp (by decide +kernel)
      refine Front.bare scheme _ (Percent.plain_encode _ cs Percent.plain_signs.1) ?_ ?_
      · intro c hc
        rcases Percent.mem_signs_or_of_mem_encode _ cs c hc with hsign | ⟨hmem, -⟩
        · exact (hsigns c hsign).1
        · exact hcs c hmem
      · intro hhead
        rcases Percent.mem_signs_or_of_head? _ cs '/' hhead with hsign | hfirst
        · exact (hsigns '/' hsign).2 rfl
        · rcases List.head?_eq_some_iff.mp hfirst with ⟨rest, rfl⟩
          exact hslash rest rfl

/-- What is read as a URL of another scheme is settled. -/
theorem settled_readOther (scheme : String) (cs : List Char) (u : Url)
    (hkind : Scheme.kind scheme = .other) (hscheme : IsScheme scheme.toList)
    (hlast : ∀ c ∈ cs.getLast?, 0x20 < c.toNat) (h : readOther scheme cs = .ok u) :
    u.Settled := by
  unfold readOther at h
  split at h
  · rw [← hkind] at h
    exact settled_afterSlashes scheme _ u (by rw [hkind]; decide) hscheme h
  · rcases splitTail_spec cs with ⟨happend, hchars⟩
    generalize splitTail cs = parts at h happend hchars
    rw [← Except.ok.inj h, ← hkind]
    refine settled_assembled scheme none _ _ _ hscheme ?_ fun hquery hfragment => ?_
    · rw [hkind]
      exact front_barePath scheme _ hchars
    · refine last_barePath _ fun c hc => hlast c ?_
      -- Without a query and a fragment the path is all of the text.
      rw [hquery, hfragment, tailText, Option.elim_none, Option.elim_none, List.append_nil,
        List.append_nil] at happend
      rwa [happend]

/-- What is read as a URL is settled. -/
theorem settled_parse (s : String) (u : Url) (h : parse s = .ok u) : u.Settled := by
  unfold parse at h
  have hlast := last_prepared s.toList
  split at h
  · cases h
  · next scheme rest hsplit =>
      rcases splitScheme_spec _ rest scheme hsplit with ⟨hscheme, front, hfront⟩
      split at h
      · next hkind =>
          rw [← hkind] at h
          exact settled_afterSlashes scheme _ u (by rw [hkind]; decide) hscheme h
      · exact settled_readFile rest u h
      · next hkind =>
          refine settled_readOther scheme rest u hkind hscheme (fun c hc => hlast c ?_) h
          rw [hfront]
          exact List.mem_getLast?_append_of_mem_getLast? (List.mem_getLast?_cons hc)

/-! ### What is settled is read back -/

/-- The characters of a path mean nothing behind it. -/
theorem Front.inside {kind : Kind} {scheme : String} {authority : Option Authority}
    {path : List Char} (h : Front kind scheme authority path) :
    ∀ c ∈ path, 0x20 ≤ c.toNat ∧ c ≠ '?' ∧ c ≠ '#' := by
  -- Only a bare path is not made of segments.
  have hresolved : ∀ kind path segs, Resolved kind path segs →
      ∀ c ∈ path, 0x20 ≤ c.toNat ∧ c ≠ '?' ∧ c ≠ '#' := by
    intro kind path segs hsegs c hc
    have hinside := inside_of_resolved kind path segs hsegs c hc
    exact ⟨Nat.le_of_lt hinside.1, hinside.2⟩
  cases h with
  | common _ _ _ segs _ hsegs => exact hresolved _ _ segs hsegs
  | file _ _ segs _ hsegs => exact hresolved _ _ segs hsegs
  | rooted _ _ segs hsegs => exact hresolved _ _ segs hsegs
  | hosted _ _ _ _ hpath =>
      rcases hpath with rfl | ⟨segs, hsegs⟩
      · exact fun c hc => absurd hc List.not_mem_nil
      · exact hresolved _ _ segs hsegs
  | bare _ _ hplain hchars _ =>
      intro c hc
      have hcontrol := (hplain c hc).1
      rw [Percent.isControl, Bool.or_eq_false_iff, decide_eq_false_iff_not] at hcontrol
      exact ⟨Nat.not_lt.mp hcontrol.1, hchars c hc⟩

/-- The authority has no blanks. -/
theorem Front.inside_authority {kind : Kind} {scheme : String} {authority : Option Authority}
    {path : List Char} (h : Front kind scheme authority path) :
    ∀ a ∈ authority, ∀ c ∈ a.text.toList, 0x20 < c.toNat := by
  intro a ha
  cases h with
  | common _ _ _ _ hsettled _ =>
      rw [← Option.some.inj ha]
      exact fun c hc => (Authority.inside_text hsettled c hc).1
  | hosted _ _ _ hsettled _ =>
      rw [← Option.some.inj ha]
      exact fun c hc => (Authority.inside_text hsettled c hc).1
  | file host _ _ hhost _ =>
      rw [← Option.some.inj ha, text_host]
      exact fun c hc => (hhost.inside c hc).1
  | rooted _ _ _ _ => cases ha
  | bare _ _ _ _ _ => cases ha

/-- All slashes before a name are left out. -/
theorem dropWhile_slashes (scheme : String) (a : Authority) (ha : a.Settled .common scheme)
    (rest : List Char) :
    ('/' :: '/' :: (a.text.toList ++ rest)).dropWhile (isSlash .common)
      = a.text.toList ++ rest := by
  have hne : a.text.toList ≠ [] := by
    rw [Authority.toList_text]
    exact List.append_ne_nil_of_right_ne_nil _
      (List.append_ne_nil_of_left_ne_nil (ha.named rfl) _)
  rcases List.exists_cons_of_ne_nil hne with ⟨c, more, hcs⟩
  have hc := (Authority.inside_text ha c (by rw [hcs]; exact List.mem_cons_self)).2
  rw [endsAuthority, Bool.or_eq_false_iff, Bool.or_eq_false_iff] at hc
  rw [List.dropWhile_cons_of_pos rfl, List.dropWhile_cons_of_pos rfl, hcs, List.cons_append,
    List.dropWhile_cons_of_neg (by rw [hc.1.1]; decide)]

/-- A host of a file and a path behind it are read from their text. -/
theorem fileParts_text (host : String) (path : List Char) (segs : List (List Char))
    (hhost : IsFileHost host path) (hpath : Resolved .file path segs) :
    fileParts ('/' :: '/' :: (host.toList ++ path)) = .ok (host.toList, path) := by
  -- The host reaches to the first slash, and that is where the path begins.
  have hend : path.takeWhile (fun c => !isSlash .file c) = [] := by
    rw [hpath.text]
    exact List.takeWhile_cons_of_neg (by decide)
  have hfile : fileParts ('/' :: '/' :: (host.toList ++ path)) = fileHost (host.toList ++ path) :=
    rfl
  rw [hfile, fileHost]
  rcases hhost with rfl | ⟨hread, hshaped, hne, hlocal, -⟩
  · rw [String.toList_empty, List.nil_append, hend]
    rfl
  · have hinside : ∀ c ∈ host.toList, (!isSlash .file c) = true := by
      intro c hc
      have hsign := (hshaped.inside c hc).2
      simp only [List.mem_cons, List.not_mem_nil, or_false, not_or] at hsign
      simp [isSlash, hsign]
    have hstop : (host.toList ++ path).takeWhile (fun c => !isSlash .file c) = host.toList := by
      rw [List.takeWhile_append_of_pos hinside, hend, List.append_nil]
    have hnamed : host.toList ≠ "localhost".toList := fun heq => hlocal (String.toList_inj.mp heq)
    simp only [hstop, isDrive_of_shaped _ hshaped, List.isEmpty_eq_false_iff.mpr hne, hread, bind,
      Except.bind, if_neg hnamed, List.drop_left, Bool.false_eq_true, if_false]

section Rereading

variable {u : Url} (h : u.Settled)

include h

/-- The query and the fragment of a settled URL are read from behind the rest of its text. -/
theorem splitTail_text (cs : List Char) (hcs : ∀ c ∈ cs, c ≠ '?' ∧ c ≠ '#') :
    splitTail (cs ++ u.tail)
      = (cs, u.query.map String.toList, u.fragment.map String.toList) := by
  refine splitTail_tailText _ _ _ hcs fun q hq => ?_
  rcases Option.map_eq_some_iff.mp hq with ⟨s, hs, rfl⟩
  exact Percent.not_mem_of_plain _ _ '#' (needsInQuery_spec _).2.2 (h.query s hs)

/-- A settled query and fragment are kept. -/
theorem assembled_text (path : List Char) :
    assembled (Scheme.kind u.scheme) u.scheme u.authority path (u.query.map String.toList)
      (u.fragment.map String.toList) = { u with path := String.ofList path } := by
  have hkept : ∀ (needs : Char → Bool) (part : Option String),
      (∀ s ∈ part, Percent.Plain needs s.toList) →
      (part.map String.toList).map (fun cs => String.ofList (Percent.encode needs cs)) = part := by
    intro needs part hpart
    cases part with
    | none => rfl
    | some s =>
        rw [Option.map_some, Option.map_some, Percent.encode_of_plain needs _ (hpart s rfl),
          String.ofList_toList]
  rw [assembled, hkept _ u.query h.query, hkept _ u.fragment h.fragment]

/-- A settled authority and a path behind it are read from their text. -/
theorem afterSlashes_text (a : Authority) (ha : a.Settled (Scheme.kind u.scheme) u.scheme)
    (hauthority : u.authority = some a)
    (hpath : u.path.toList = [] ∨ u.path.toList.head? = some '/')
    (hrooted : rootedPath (Scheme.kind u.scheme) u.path.toList = u.path.toList) :
    afterSlashes (Scheme.kind u.scheme) u.scheme (a.text.toList ++ (u.path.toList ++ u.tail))
      = .ok u := by
  have hinside : ∀ c ∈ a.text.toList, (!endsAuthority (Scheme.kind u.scheme) c) = true := by
    intro c hc
    rw [(Authority.inside_text ha c hc).2]
    rfl
  -- Behind the authority is a slash, or a sign of the tail, or nothing: each of them ends it.
  have hend : (u.path.toList ++ u.tail).takeWhile (fun c => !endsAuthority (Scheme.kind u.scheme) c)
      = [] := by
    have hsign : ∀ c rest, c = '/' ∨ c = '?' ∨ c = '#' →
        (c :: rest).takeWhile (fun c => !endsAuthority (Scheme.kind u.scheme) c) = [] := by
      intro c rest hc
      refine List.takeWhile_cons_of_neg ?_
      rcases hc with rfl | rfl | rfl <;> simp [endsAuthority, isSlash]
    rcases hpath with hnil | hslash
    · rw [hnil, List.nil_append]
      rcases tail_eq_nil_or u with htail | ⟨c, rest, htail, hc⟩
      · rw [htail]
        rfl
      · rw [htail]
        exact hsign c rest (Or.inr hc)
    · rcases List.head?_eq_some_iff.mp hslash with ⟨rest, hrest⟩
      rw [hrest]
      exact hsign '/' _ (Or.inl rfl)
  have hstop : (a.text.toList ++ (u.path.toList ++ u.tail)).takeWhile
      (fun c => !endsAuthority (Scheme.kind u.scheme) c) = a.text.toList := by
    rw [List.takeWhile_append_of_pos hinside, hend, List.append_nil]
  have hassembled := assembled_text h u.path.toList
  have htail := splitTail_text h u.path.toList fun c hc => (h.front.inside c hc).2
  rw [hauthority, String.ofList_toList] at hassembled
  unfold afterSlashes
  simp only [hstop, List.drop_left, Authority.readAuthority_text ha, htail, bind, Except.bind,
    hrooted, hassembled]
  rw [← hauthority]

/-- What stands between the scheme and the path has no blanks. -/
theorem front_inside : ∀ c ∈ u.front.toList, 0x20 < c.toNat := by
  unfold front
  cases ha : u.authority with
  | none =>
      simp only
      split <;> exact List.all_iff_forall_prop.mp (by decide)
  | some a =>
      rw [String.toList_append, List.forall_mem_append]
      exact ⟨List.all_iff_forall_prop.mp (by decide), h.front.inside_authority a ha⟩

/-- What stands behind the path has no blanks. -/
theorem tail_inside : ∀ c ∈ u.tail, 0x20 < c.toNat := by
  have hpart : ∀ (needs : Char → Bool) (part : Option String) (sign : Char), needs ' ' = true →
      0x20 < sign.toNat → (∀ s ∈ part, Percent.Plain needs s.toList) →
      ∀ c ∈ (part.map String.toList).elim [] (sign :: ·), 0x20 < c.toNat := by
    intro needs part sign hblank hsign hplain
    cases part with
    | none => exact fun c hc => absurd hc List.not_mem_nil
    | some s =>
        refine List.forall_mem_cons.mpr ⟨hsign, fun c hc => ?_⟩
        exact Percent.code_of_plain needs c hblank (hplain s rfl c hc)
  rw [tail, tailText, List.forall_mem_append]
  exact ⟨hpart _ u.query '?' (needsInQuery_spec _).2.1 (by decide) h.query,
    hpart _ u.fragment '#' rfl (by decide) h.fragment⟩

/-- Nothing is cut off from the text of a settled URL, and nothing is left out in it. -/
theorem trimmed_text : Trimmed u.text.toList := by
  have hscheme : ∀ c ∈ u.scheme.toList, 0x20 < c.toNat := fun c hc =>
    (lower_of_isSchemeChar c (h.scheme.chars c hc)).2.2.2
  have hlead : ∀ c ∈ u.scheme.toList ++ ':' :: u.front.toList, 0x20 < c.toNat :=
    List.forall_mem_append.mpr
      ⟨hscheme, List.forall_mem_cons.mpr ⟨by decide, front_inside h⟩⟩
  have htext : u.text.toList
      = (u.scheme.toList ++ ':' :: u.front.toList) ++ (u.path.toList ++ u.tail) := by
    rw [toList_text, List.append_assoc]
    rfl
  have hlast : ∀ as bs : List Char, (bs = [] → ∀ c ∈ as.getLast?, 0x20 < c.toNat) →
      (∀ c ∈ bs.getLast?, 0x20 < c.toNat) → ∀ c ∈ (as ++ bs).getLast?, 0x20 < c.toNat := by
    intro as bs has hbs
    by_cases hnil : bs = []
    · rw [hnil, List.append_nil]
      exact has hnil
    · rw [List.getLast?_append_of_ne_nil _ hnil]
      exact hbs
  rw [htext]
  constructor
  case kept =>
    have hcode : ∀ c ∈ (u.scheme.toList ++ ':' :: u.front.toList) ++ (u.path.toList ++ u.tail),
        0x20 ≤ c.toNat := by
      refine List.forall_mem_append.mpr ⟨fun c hc => Nat.le_of_lt (hlead c hc), ?_⟩
      exact List.forall_mem_append.mpr ⟨fun c hc => (h.front.inside c hc).1,
        fun c hc => Nat.le_of_lt (tail_inside h c hc)⟩
    intro c hc hmem
    have hsmall : ∀ c ∈ ['\t', '\n', '\r'], c.toNat < 0x20 :=
      List.all_iff_forall_prop.mp (by decide)
    exact absurd (hsmall c hmem) (Nat.not_lt.mpr (hcode c hc))
  case first =>
    rcases h.scheme.letter with ⟨c, rest, hcs, -⟩
    rw [hcs] at hscheme ⊢
    exact fun d hd => Option.some.inj hd ▸ hscheme c List.mem_cons_self
  case last =>
    refine hlast _ _ (fun _ c hc => hlead c (List.mem_of_getLast? hc)) (hlast _ _ (fun htail => ?_)
      fun c hc => tail_inside h c (List.mem_of_getLast? hc))
    -- Without a query and a fragment the path is what the text ends with.
    have hnone : u.query = none ∧ u.fragment = none := by
      unfold tail tailText at htail
      cases hquery : u.query <;> cases hfragment : u.fragment <;> simp_all
    exact h.last hnone.1 hnone.2

/-- The scheme of a settled URL is read from its text. -/
theorem splitScheme_prepared : splitScheme (prepared u.text.toList)
    = some (u.scheme, u.front.toList ++ (u.path.toList ++ u.tail)) := by
  rw [prepared_of_trimmed _ (trimmed_text h), toList_text, splitScheme_text _ _ h.scheme,
    String.ofList_toList]

/-- A settled file is read from its text. -/
theorem readFile_text (host : String) (segs : List (List Char))
    (hhost : IsFileHost host u.path.toList) (hpath : Resolved .file u.path.toList segs)
    (hscheme : u.scheme = "file") (hauthority : u.authority = some { host }) :
    readFile ('/' :: '/' :: (host.toList ++ (u.path.toList ++ u.tail)))
      = .ok { u with path := String.ofList (withDriveColon u.path.toList) } := by
  have hchars : ∀ c ∈ '/' :: '/' :: (host.toList ++ u.path.toList), c ≠ '?' ∧ c ≠ '#' := by
    rw [List.forall_mem_cons, List.forall_mem_cons, List.forall_mem_append]
    refine ⟨by decide, by decide, fun c hc => ?_, fun c hc => (h.front.inside c hc).2⟩
    have hsign := (hhost.inside c hc).2
    simp only [List.mem_cons, List.not_mem_nil, or_false, not_or] at hsign
    exact ⟨hsign.2.2.1, hsign.2.2.2.1⟩
  have htail := splitTail_text h ('/' :: '/' :: (host.toList ++ u.path.toList)) hchars
  have hrooted := rootedPath_file u.path.toList segs hpath
  -- A bar and a colon make the same drive, so the host is kept or dropped as before.
  have hkept : (if startsWithDrive (withDriveColon u.path.toList) then [] else host.toList)
      = host.toList := by
    rw [startsWithDrive_withDriveColon _ segs hpath]
    rcases hhost with rfl | ⟨-, -, -, -, hdrive⟩
    · exact ite_self _
    · rw [hdrive]
      rfl
  have hassembled := assembled_text h (withDriveColon u.path.toList)
  have hkind : Scheme.kind "file" = .file := rfl
  rw [hscheme, hauthority, hkind] at hassembled
  rw [List.cons_append, List.cons_append, List.append_assoc] at htail
  unfold readFile
  simp only [htail, fileParts_text host _ segs hhost hpath, bind, Except.bind, hrooted, hkept,
    String.ofList_toList, hassembled]
  rw [← hauthority, ← hscheme]

/-- A settled URL of another scheme without an authority is read from its text. -/
theorem readOther_text (cs : List Char) (hkind : Scheme.kind u.scheme = .other)
    (hauthority : u.authority = none) (hcs : ∀ c ∈ cs, c ≠ '?' ∧ c ≠ '#')
    (hslashes : ∀ rest, cs ≠ '/' :: '/' :: rest) (hpath : barePath cs = u.path.toList) :
    readOther u.scheme (cs ++ u.tail) = .ok u := by
  -- The tail begins with no slash, so it cannot make a second one of it.
  have hmore : ∀ rest, cs ++ u.tail ≠ '/' :: '/' :: rest := by
    intro rest hrest
    rcases tail_eq_nil_or u with htail | ⟨c, after, htail, hc⟩
    · rw [htail, List.append_nil] at hrest
      exact hslashes rest hrest
    · rw [htail] at hrest
      rcases cs with _ | ⟨a, _ | ⟨b, cs⟩⟩
      · rw [(List.cons.inj hrest).1] at hc
        exact absurd hc (by decide)
      · rw [(List.cons.inj (List.cons.inj hrest).2).1] at hc
        exact absurd hc (by decide)
      · have hboth := List.cons.inj hrest
        exact hslashes cs (by rw [hboth.1, (List.cons.inj hboth.2).1])
  have hassembled := assembled_text h u.path.toList
  rw [hkind, hauthority, String.ofList_toList] at hassembled
  unfold readOther
  split
  · next rest hrest => exact absurd hrest (hmore rest)
  · rw [splitTail_text h cs hcs]
    simp only [hpath, hassembled]
    rw [← hauthority]

/-- A settled URL with a path of segments and no authority is read from its text. -/
theorem readOther_rooted (segs : List (List Char)) (hkind : Scheme.kind u.scheme = .other)
    (hauthority : u.authority = none) (hsegs : Resolved .other u.path.toList segs) :
    readOther u.scheme (u.front.toList ++ (u.path.toList ++ u.tail)) = .ok u := by
  have hchars := fun c hc => (inside_of_resolved _ _ segs hsegs c hc).2
  rw [front_of_none u hauthority, ← List.append_assoc]
  generalize hpath : u.path.toList = path at hsegs hchars ⊢
  rcases List.exists_cons_of_ne_nil (l := path) (by rw [hsegs.text]; exact List.cons_ne_nil _ _)
    with ⟨slash, cs, rfl⟩
  rcases (List.cons.inj hsegs.text).1
  have hself := pathText_of_resolved .other cs segs (by decide) hsegs
  by_cases hslashes : ['/', '/'] <+: '/' :: cs
  · -- Behind the dot in front the path is read as if there were none.
    rw [if_pos hslashes]
    refine readOther_text h _ hkind hauthority ?_ (fun rest hrest => ?_) ?_
    · exact List.forall_mem_append.mpr ⟨List.all_iff_forall_prop.mp (by decide), hchars⟩
    · exact absurd (List.cons.inj (List.cons.inj hrest).2).1 (by decide)
    · rw [hpath]
      exact (pathText_dot cs).trans hself
  · rw [if_neg hslashes, List.nil_append]
    refine readOther_text h _ hkind hauthority hchars (fun rest hrest => hslashes ?_)
      (hself.trans hpath.symm)
    rw [hrest]
    exact ⟨rest, rfl⟩

/-- A settled URL with neither an authority nor a path of segments is read from its text. -/
theorem readOther_bare (hkind : Scheme.kind u.scheme = .other) (hauthority : u.authority = none)
    (hplain : Percent.Plain Percent.nowhere u.path.toList)
    (hchars : ∀ c ∈ u.path.toList, c ≠ '?' ∧ c ≠ '#') (hslash : u.path.toList.head? ≠ some '/') :
    readOther u.scheme (u.front.toList ++ (u.path.toList ++ u.tail)) = .ok u := by
  have hnone : ¬['/', '/'] <+: u.path.toList := by
    rintro ⟨rest, hrest⟩
    exact hslash (by rw [← hrest]; rfl)
  have hself : barePath u.path.toList = u.path.toList := by
    rw [barePath]
    · exact Percent.encode_of_plain _ _ hplain
    · exact fun rest hrest => hslash (by rw [hrest]; rfl)
  rw [front_of_none u hauthority, if_neg hnone, List.nil_append]
  exact readOther_text h _ hkind hauthority hchars
    (fun rest hrest => hslash (by rw [hrest]; rfl)) hself

/-- What stands behind the scheme of a settled URL is read in the way of its kind. -/
theorem parse_front (kind : Kind) (scheme : String) (authority : Option Authority)
    (path : List Char) (hfront : Front kind scheme authority path)
    (hkind : Scheme.kind u.scheme = kind) (hscheme : u.scheme = scheme)
    (hauthority : u.authority = authority) (hpath : u.path.toList = path) :
    parse u.text = .ok u.reread := by
  have hother : kind ≠ .file → u.reread = u := by
    intro hne
    refine if_neg fun hfile => hne ?_
    rw [← hkind, hfile]
    rfl
  simp only [parse, splitScheme_prepared h, hkind]
  cases hfront with
  | common _ a _ segs ha hsegs =>
      rw [← hscheme] at ha
      rw [hother (by decide), front_of_some u a hauthority]
      -- However many slashes there are, the name begins behind them.
      simp only [List.cons_append, dropWhile_slashes u.scheme a ha]
      rw [← hkind] at ha hsegs ⊢
      refine afterSlashes_text h a ha hauthority (Or.inr ?_) ?_
      · rw [hpath, hsegs.text]
        rfl
      · rw [hpath]
        exact rootedPath_of_resolved _ _ segs (by rw [hkind]; decide) hsegs
  | file host _ segs hhost hsegs =>
      rw [← hpath] at hhost hsegs
      rw [reread, if_pos hscheme, front_of_some u _ hauthority, text_host]
      exact readFile_text h host segs hhost hsegs hscheme hauthority
  | hosted _ a _ ha hrooted =>
      rw [← hscheme] at ha
      have hpaths : (path = [] ∨ path.head? = some '/') ∧ rootedPath .other path = path := by
        rcases hrooted with rfl | ⟨segs, hsegs⟩
        · exact ⟨Or.inl rfl, rfl⟩
        · refine ⟨Or.inr ?_, rootedPath_of_resolved _ _ segs (by decide) hsegs⟩
          rw [hsegs.text]
          rfl
      rw [← hkind] at ha
      rw [← hpath, ← hkind] at hpaths
      have hread := afterSlashes_text h a ha hauthority hpaths.1 hpaths.2
      rw [hkind] at hread
      rw [hother (by decide), front_of_some u a hauthority]
      exact hread
  | rooted _ _ segs hsegs =>
      rw [hother (by decide)]
      exact readOther_rooted h segs hkind hauthority (hpath ▸ hsegs)
  | bare _ _ hplain hchars hslash =>
      rw [← hpath] at hplain hchars hslash
      rw [hother (by decide)]
      exact readOther_bare h hkind hauthority hplain hchars hslash

/-- A settled URL is read from its text. -/
theorem parse_text : parse u.text = .ok u.reread :=
  parse_front h _ _ _ _ h.front rfl rfl rfl rfl

end Rereading

/-- The path of a file is resolved. -/
theorem Front.resolved {scheme : String} {authority : Option Authority} {path : List Char}
    (h : Front .file scheme authority path) : ∃ segs, Resolved .file path segs := by
  cases h with
  | file _ _ segs _ hsegs => exact ⟨segs, hsegs⟩

/-- Reading once more changes nothing. -/
theorem reread_reread (u : Url) (h : u.Settled) : u.reread.reread = u.reread := by
  by_cases hfile : u.scheme = "file"
  · have hfront := h.front
    rw [hfile] at hfront
    rcases Front.resolved hfront with ⟨segs, hsegs⟩
    have hself : u.reread = { u with path := String.ofList (withDriveColon u.path.toList) } :=
      if_pos hfile
    rw [hself, reread, if_pos hfile, String.toList_ofList,
      withDriveColon_withDriveColon _ segs hsegs]
  · have hself : u.reread = u := if_neg hfile
    rw [hself, hself]

/-- The text of a URL that was read is read as the same URL, but for the bar of a drive, and what is
    read then is read from its own text. -/
theorem reads_back (s : String) (u : Url) (h : parse s = .ok u) :
    parse u.text = .ok u.reread ∧ (u.scheme ≠ "file" → u.reread = u) ∧
      parse u.reread.text = .ok u.reread := by
  have hparse := parse_text (settled_parse s u h)
  refine ⟨hparse, fun hscheme => if_neg hscheme, ?_⟩
  have hagain := parse_text (settled_parse u.text u.reread hparse)
  rwa [reread_reread u (settled_parse s u h)] at hagain

end Settled

end Url

end RunReport
