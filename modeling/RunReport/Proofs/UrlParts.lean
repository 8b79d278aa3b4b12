import RunReport.Proofs.HostText
import RunReport.Proofs.PathText

/-!
# The Parts of a URL in its Text

Where a text is cut into a scheme, a front, a query and a fragment.

Each cut is made at the first of a sign, so a text that is put together from parts without these
signs is cut into the same parts again. Before all that the ends of the text are cut off, and line
breaks and tabs are left out of it. A text that begins and ends with something else than a blank is
kept, and this is all that is needed: a text that was prepared never ends in a blank, since what is
left out of it are blanks themselves (`last_prepared`).

## Main definitions

* `Url.Trimmed`: A text from which nothing is cut off or left out.
* `Url.IsScheme`: A scheme in lower case.
* `Url.tailText`: The query and the fragment with the signs before them.

## Theorems

* `prepared_of_trimmed`, `last_prepared`: What is cut off from a text.
* `splitScheme_text`, `splitScheme_spec`: The scheme of a text.
* `splitTail_tailText`, `splitTail_spec`: The query and the fragment of a text.
* `needsInQuery_spec`: The signs that need a percent sign in a query.
-/

namespace RunReport

namespace Url

open Scheme (Kind)

/-! ### Preparation -/

/-- A text from which nothing is cut off and in which nothing is left out. -/
structure Trimmed (cs : List Char) : Prop where
  kept : ∀ c ∈ cs, c ∉ ['\t', '\n', '\r']
  first : ∀ c ∈ cs.head?, 0x20 < c.toNat
  last : ∀ c ∈ cs.getLast?, 0x20 < c.toNat

/-- Nothing is cut off from a text that begins with none of the characters that are cut off. -/
theorem dropWhile_edge (cs : List Char) (h : ∀ c ∈ cs.head?, 0x20 < c.toNat) :
    (cs.dropWhile fun c => c.toNat ≤ 0x20) = cs := by
  cases cs with
  | nil => rfl
  | cons c cs =>
      refine List.dropWhile_cons_of_neg ?_
      rw [decide_eq_true_eq, Nat.not_le]
      exact h c rfl

theorem prepared_of_trimmed (cs : List Char) (h : Trimmed cs) : prepared cs = cs := by
  have hback : (cs.reverse.dropWhile fun c => c.toNat ≤ 0x20) = cs.reverse := by
    refine dropWhile_edge cs.reverse ?_
    rw [List.head?_reverse]
    exact h.last
  have hfront := dropWhile_edge cs h.first
  rw [prepared]
  simp only [hfront, hback, List.reverse_reverse]
  rw [List.filter_eq_self]
  intro c hc
  have hkept := h.kept c hc
  simp only [List.mem_cons, List.not_mem_nil, or_false, not_or] at hkept
  simp [hkept]

/-- A text that was prepared does not end in a blank: what is left out in it are blanks. -/
theorem last_prepared (cs : List Char) : ∀ c ∈ (prepared cs).getLast?, 0x20 < c.toNat := by
  let isEdge (c : Char) : Bool := c.toNat ≤ 0x20
  let isKept (c : Char) : Bool := c ≠ '\t' && c ≠ '\n' && c ≠ '\r'
  have hprepared : prepared cs
      = ((cs.dropWhile isEdge).reverse.dropWhile isEdge).reverse.filter isKept := rfl
  -- Reversed, the text begins with what stopped the cut at its end.
  have hhead := List.head?_dropWhile_not isEdge (cs.dropWhile isEdge).reverse
  rw [hprepared]
  generalize (cs.dropWhile isEdge).reverse.dropWhile isEdge = back at hhead ⊢
  cases back with
  | nil => exact fun c hc => absurd hc (by simp)
  | cons d rest =>
      have hd : 0x20 < d.toNat := Nat.not_le.mp (of_decide_eq_false hhead)
      have hne : ∀ x : Char, x.toNat ≤ 0x20 → d ≠ x := fun x hx heq => by
        rw [heq] at hd
        omega
      -- What is left out in the text are blanks, so this character stays, and stays the last.
      have hkept : isKept d = true := by
        simp only [isKept, Bool.and_eq_true, decide_eq_true_eq]
        exact ⟨⟨hne _ (by decide), hne _ (by decide)⟩, hne _ (by decide)⟩
      rw [List.reverse_cons, List.filter_append, List.filter_cons_of_pos hkept, List.filter_nil,
        List.getLast?_concat]
      intro c hc
      rw [← Option.some.inj hc]
      exact hd

/-! ### Schemes -/

/-- A scheme in lower case. -/
structure IsScheme (cs : List Char) : Prop where
  letter : ∃ c rest, cs = c :: rest ∧ c.isAlpha
  chars : ∀ c ∈ cs, isSchemeChar c
  lower : cs.map Char.toLower = cs

theorem code_of_isSchemeChar (c : Char) (h : isSchemeChar c) : c.toNat < 0x80 := by
  rw [isSchemeChar, Bool.or_eq_true, Bool.or_eq_true, Bool.or_eq_true, Char.isAlphanum,
    Bool.or_eq_true, decide_eq_true_eq, decide_eq_true_eq, decide_eq_true_eq] at h
  rcases h with (((h | h) | rfl) | rfl) | rfl
  · exact code_of_isAlpha c h
  · have hcode := (Numeral.isDigit_iff c).mp h
    omega
  all_goals decide

/-- The characters of a scheme stay such in lower case, and mean nothing elsewhere in a URL. -/
theorem lower_of_isSchemeChar (c : Char) (h : isSchemeChar c) :
    isSchemeChar c.toLower ∧ c.toLower.toLower = c.toLower ∧ (c.isAlpha → c.toLower.isAlpha) ∧
      0x20 < c.toNat :=
  FormEncoding.forall_ascii (fun c => isSchemeChar c → isSchemeChar c.toLower ∧
    c.toLower.toLower = c.toLower ∧ (c.isAlpha → c.toLower.isAlpha) ∧ 0x20 < c.toNat)
    (by decide +kernel) c (code_of_isSchemeChar c h) h

/-- A scheme is read up to its colon. -/
theorem splitScheme_text (cs rest : List Char) (h : IsScheme cs) :
    splitScheme (cs ++ ':' :: rest) = some (String.ofList cs, rest) := by
  have hstop : (cs ++ ':' :: rest).takeWhile isSchemeChar = cs := by
    rw [List.takeWhile_append_of_pos h.chars, List.takeWhile_cons_of_neg (by decide),
      List.append_nil]
  rcases h.letter with ⟨c, more, hcs, hletter⟩
  have hlower := h.lower
  rw [splitScheme]
  simp only [hstop, List.drop_left]
  rw [hcs] at hlower ⊢
  simp only [if_pos hletter, hlower]

/-- What is read as a scheme is one, and stands before the rest of the text. -/
theorem splitScheme_spec (cs rest : List Char) (scheme : String)
    (h : splitScheme cs = some (scheme, rest)) :
    IsScheme scheme.toList ∧ ∃ front, cs = front ++ ':' :: rest := by
  unfold splitScheme at h
  simp only at h
  split at h
  · next c front after hscheme hdrop =>
      split at h
      · next hletter =>
          rcases Prod.mk.inj (Option.some.inj h) with ⟨rfl, rfl⟩
          -- The scheme is what was taken up to the colon, in lower case.
          have hchars : ∀ d ∈ c :: front, isSchemeChar d := by
            rw [← hscheme]
            exact List.all_eq_true.mp List.all_takeWhile
          have hlower := fun d hd => lower_of_isSchemeChar d (hchars d hd)
          refine ⟨?_, c :: front, ?_⟩
          · rw [String.toList_ofList, hscheme]
            refine ⟨⟨_, _, List.map_cons, (hlower c List.mem_cons_self).2.2.1 hletter⟩, ?_, ?_⟩
            · intro d hd
              rcases List.mem_map.mp hd with ⟨e, he, rfl⟩
              exact (hlower e he).1
            · rw [List.map_map]
              exact List.map_congr_left fun d hd => (hlower d hd).2.1
          · rw [← hscheme, ← hdrop]
            exact List.prefix_iff_eq_append.mp (List.takeWhile_prefix _) |>.symm
      · cases h
  · cases h

theorem isScheme_file : IsScheme "file".toList :=
  ⟨⟨'f', _, rfl, rfl⟩, List.all_iff_forall_prop.mp (by decide), by decide⟩

/-! ### Query and fragment -/

/-- The query and the fragment with the signs before them. -/
def tailText (query fragment : Option (List Char)) : List Char :=
  (query.elim [] ('?' :: ·)) ++ fragment.elim [] ('#' :: ·)

/-- Behind the first number sign is the fragment. -/
theorem splitTail_hash (front f : List Char) (h : '#' ∉ front) :
    splitTail (front ++ '#' :: f) = ((splitTail front).1, (splitTail front).2.1, some f) := by
  unfold splitTail
  simp only [takeWhile_ne front f '#' h, takeWhile_ne_self front '#' h, List.drop_left]

theorem splitTail_path (path : List Char) (hhash : '#' ∉ path) (hmark : '?' ∉ path) :
    splitTail path = (path, none, none) := by
  unfold splitTail
  simp only [takeWhile_ne_self path '#' hhash, takeWhile_ne_self path '?' hmark, List.drop_length]

/-- Behind the first question mark is the query, if there is no number sign. -/
theorem splitTail_query (path p : List Char) (hhash : '#' ∉ path ++ '?' :: p)
    (hmark : '?' ∉ path) : splitTail (path ++ '?' :: p) = (path, some p, none) := by
  unfold splitTail
  simp only [takeWhile_ne_self _ '#' hhash, takeWhile_ne path p '?' hmark, List.drop_length,
    List.drop_left]

/-- A path, a query and a fragment are read back from their text. -/
theorem splitTail_tailText (path : List Char) (query fragment : Option (List Char))
    (hpath : ∀ c ∈ path, c ≠ '?' ∧ c ≠ '#') (hquery : ∀ q ∈ query, '#' ∉ q) :
    splitTail (path ++ tailText query fragment) = (path, query, fragment) := by
  have hmark : '?' ∉ path := fun hmem => (hpath '?' hmem).1 rfl
  have hhash : '#' ∉ path := fun hmem => (hpath '#' hmem).2 rfl
  -- First without the fragment: a number sign can only be what begins it.
  have hfront : '#' ∉ path ++ query.elim [] ('?' :: ·) ∧
      splitTail (path ++ query.elim [] ('?' :: ·)) = (path, query, none) := by
    cases query with
    | none =>
        rw [Option.elim_none, List.append_nil]
        exact ⟨hhash, splitTail_path path hhash hmark⟩
    | some q =>
        have hall : '#' ∉ path ++ '?' :: q := by
          rw [List.mem_append, List.mem_cons]
          rintro (h | h | h)
          · exact hhash h
          · exact absurd h (by decide)
          · exact hquery q rfl h
        exact ⟨hall, splitTail_query path q hall hmark⟩
  cases fragment with
  | none =>
      rw [tailText, Option.elim_none, List.append_nil]
      exact hfront.2
  | some f =>
      rw [tailText, ← List.append_assoc, Option.elim_some, splitTail_hash _ f hfront.1, hfront.2]

/-- A text is its path, its query and its fragment. -/
theorem splitTail_spec (cs : List Char) :
    cs = (splitTail cs).1 ++ tailText (splitTail cs).2.1 (splitTail cs).2.2 ∧
      ∀ c ∈ (splitTail cs).1, c ≠ '?' ∧ c ≠ '#' := by
  have hne : ∀ path : List Char, '?' ∉ path → '#' ∉ path → ∀ c ∈ path, c ≠ '?' ∧ c ≠ '#' :=
    fun path hmark hhash c hc => ⟨fun h => hmark (h ▸ hc), fun h => hhash (h ▸ hc)⟩
  -- First for a text without a number sign, which has no fragment.
  have hfront : ∀ cs, '#' ∉ cs → (splitTail cs).2.2 = none ∧
      cs = (splitTail cs).1 ++ tailText (splitTail cs).2.1 none ∧
      ∀ c ∈ (splitTail cs).1, c ≠ '?' ∧ c ≠ '#' := by
    intro cs hhash
    by_cases hmark : '?' ∈ cs
    · rcases List.eq_append_cons_of_mem hmark with ⟨path, q, rfl, hpath⟩
      rw [splitTail_query path q hhash hpath]
      rw [List.mem_append, not_or] at hhash
      exact ⟨rfl, by rw [tailText, Option.elim_none, List.append_nil]; rfl, hne path hpath hhash.1⟩
    · rw [splitTail_path cs hhash hmark]
      exact ⟨rfl, (List.append_nil cs).symm, hne cs hmark hhash⟩
  by_cases hhash : '#' ∈ cs
  · rcases List.eq_append_cons_of_mem hhash with ⟨front, f, rfl, hmem⟩
    rcases hfront front hmem with ⟨-, happend, hchars⟩
    rw [splitTail_hash front f hmem]
    refine ⟨?_, hchars⟩
    nth_rewrite 1 [happend]
    simp only [tailText, Option.elim_none, Option.elim_some, List.append_nil, List.append_assoc]
  · rcases hfront cs hhash with ⟨hnone, happend, hchars⟩
    rw [hnone]
    exact ⟨happend, hchars⟩

/-- The signs that end a query or a fragment, and blanks, need a percent sign there. -/
theorem needsInQuery_spec (kind : Kind) :
    Percent.Plain (needsInQuery kind) Percent.signs ∧ needsInQuery kind ' ' = true ∧
      needsInQuery kind '#' = true := by
  cases kind <;> decide +kernel

end Url

end RunReport
