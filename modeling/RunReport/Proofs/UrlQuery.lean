import RunReport.Proofs.UrlText

/-!
# A Query Written Behind a URL

What is read from the text of a URL that goes on with a question mark and a query.

This is how a link is made from an address without taking it apart, and it means what it should only
if the address ends with its path: behind a query the question mark is one more character of this
query, and behind a fragment everything goes into the fragment. `goOn` is the URL of the three
cases. It is put together from parts that were read and a query without signs that mean anything, so
it is as if it had been read itself, and its text is read back.

## Main definitions

* `Url.IsRead`: A URL that some text writes.
* `Url.goOn`: A URL whose text goes on with a question mark and a query.

## Theorems

* `plain_of_isQueryChar`: A written query means nothing in a URL.
* `text_goOn`: The text of a URL that goes on.
* `settled_goOn`: A URL that goes on is settled.
* `parse_goOn`: The URL of the longer text.
-/

namespace RunReport

open FormEncoding

/-- The characters of a query of written pairs mean nothing in a URL. -/
theorem plain_of_isQueryChar (c : Char) (h : isQueryChar c) :
    Percent.isControl c = false ∧ Percent.inQuery c = false ∧ Percent.inCommonQuery c = false ∧
      Percent.inFragment c = false := by
  -- All of these characters are in ASCII, where each one can be tried.
  have hascii : c.toNat < 0x80 := by
    rw [isQueryChar, Bool.or_eq_true] at h
    rcases h with h | h
    · rw [isWritten, Bool.and_eq_true, decide_eq_true_eq] at h
      exact h.1
    · have hsigns : ['=', '&'].all fun x => x.toNat < 0x80 := by decide
      exact of_decide_eq_true (List.all_eq_true.mp hsigns c (of_decide_eq_true h))
  exact forall_ascii (fun c => isQueryChar c → Percent.isControl c = false ∧
    Percent.inQuery c = false ∧ Percent.inCommonQuery c = false ∧ Percent.inFragment c = false)
    (by decide +kernel) c hascii h

namespace Url

open Scheme (Kind)

/-- A URL that some text writes. -/
def IsRead [HostLibrary] (u : Url) : Prop :=
  ∃ s, parse s = .ok u

/-- A URL whose text goes on with a question mark and a query. -/
def goOn (u : Url) (q : String) : Url :=
  match u.fragment, u.query with
  | some f, _ => { u with fragment := some (f ++ "?" ++ q) }
  | none, some p => { u with query := some (p ++ "?" ++ q) }
  | none, none => { u with query := some q }

theorem text_goOn (u : Url) (q : String) : (u.goOn q).text = u.text ++ "?" ++ q := by
  rcases u with ⟨scheme, authority, path, query, fragment⟩
  cases fragment with
  | some f =>
      cases query <;> simp only [goOn, text, textWithoutFragment, front, String.append_assoc]
  | none =>
      cases query with
      | some p => simp only [goOn, text, textWithoutFragment, front, String.append_assoc]
      | none =>
          simp only [goOn, text, textWithoutFragment, String.append_assoc, String.append_empty]
          rfl

/-- A written query needs no percent sign where it is put. -/
theorem plain_append (needs : Char → Bool) (s q : String) (h : Percent.Plain needs s.toList)
    (hq : ∀ c ∈ '?' :: q.toList, Percent.isControl c = false ∧ needs c = false) :
    Percent.Plain needs (s ++ "?" ++ q).toList := by
  rw [String.toList_append, String.toList_append, List.append_assoc]
  exact List.forall_mem_append.mpr ⟨h, hq⟩

/-- A URL that was read and goes on with a written query is settled. -/
theorem settled_goOn [HostLibrary] (u : Url) (q : String) (h : u.Settled)
    (hq : ∀ c ∈ q.toList, isQueryChar c) : (u.goOn q).Settled := by
  have hfragment : ∀ c ∈ '?' :: q.toList,
      Percent.isControl c = false ∧ Percent.inFragment c = false := by
    refine List.forall_mem_cons.mpr ⟨by decide, fun c hc => ?_⟩
    rcases plain_of_isQueryChar c (hq c hc) with ⟨hcontrol, -, -, hsign⟩
    exact ⟨hcontrol, hsign⟩
  have hquery : ∀ kind, ∀ c ∈ '?' :: q.toList,
      Percent.isControl c = false ∧ needsInQuery kind c = false := by
    refine fun kind => List.forall_mem_cons.mpr ⟨by cases kind <;> decide, fun c hc => ?_⟩
    rcases plain_of_isQueryChar c (hq c hc) with ⟨hcontrol, hother, hcommon, -⟩
    cases kind with
    | other => exact ⟨hcontrol, hother⟩
    | common => exact ⟨hcontrol, hcommon⟩
    | file => exact ⟨hcontrol, hcommon⟩
  -- What goes on is the last part that the URL has.
  rcases u with ⟨scheme, authority, path, query, fragment⟩
  cases fragment with
  | some f =>
      refine ⟨h.scheme, h.front, h.query, fun g hg => ?_, fun _ hnone => nomatch hnone⟩
      rw [← Option.some.inj hg]
      exact plain_append _ f q (h.fragment f rfl) hfragment
  | none =>
      cases query with
      | some p =>
          refine ⟨h.scheme, h.front, fun r hr => ?_, h.fragment, fun hnone => nomatch hnone⟩
          rw [← Option.some.inj hr]
          exact plain_append _ p q (h.query p rfl) (hquery _)
      | none =>
          refine ⟨h.scheme, h.front, fun r hr => ?_, h.fragment, fun hnone => nomatch hnone⟩
          rw [← Option.some.inj hr]
          exact fun c hc => hquery _ c (List.mem_cons_of_mem '?' hc)

/-- The URL of the text of a URL that goes on with a question mark and a written query is the URL
    that goes on. -/
theorem parse_goOn [HostLibrary] (u : Url) (q : String) (hu : u.IsRead)
    (hq : ∀ c ∈ q.toList, isQueryChar c) :
    parse (u.text ++ "?" ++ q) = .ok (u.goOn q).reread := by
  rcases hu with ⟨s, hs⟩
  rw [← text_goOn]
  exact parse_text (settled_goOn u q (settled_parse s u hs) hq)

end Url

end RunReport
