import Mathlib.Data.List.Infix
import RunReport.Text.Markup

/-!
# Tags in a Page

How often a tag stands in a page that is put together from pieces.

A tag is recognised by how it begins, `<a href=` or `<tr>`. In a page of two pieces such a beginning
can stand in either of them, or it can start in the first and go on in the second. Only the last
case keeps the counts of the pieces from adding up, and it is what a text with an angle bracket
could bring about. A piece is `Whole` if it does not end in the middle of a beginning, so
`occurrences_append` needs nothing of what comes after it.

A text without an angle bracket is whole and has no tags, whatever the tag. Escaped texts are such
texts, and so are labels and numerals.

## Main definitions

* `occurrences`, `count`: How often a text stands in another.
* `Whole`: A piece does not end in the middle of a tag's beginning.
* `Inert`: A text has no angle bracket.
* `marks`: The characters that are not left in an escaped text.

## Theorems

* `occurrences_append`: The tags of two pieces add up.
* `whole_append`: Two whole pieces make a whole one.
* `whole_of_inert`, `occurrences_of_inert`: A text without an angle bracket is whole and has no
  tags.
* `inert_append`: Two such texts make one.
* `not_mem_escape`, `inert_escape`: What an escaped text does not have, whatever was escaped.
-/

namespace RunReport

namespace Markup

/-- At how many places of a text another one stands. -/
def occurrences (p : List Char) : List Char → Nat
  | [] => 0
  | c :: cs => (if p.isPrefixOf (c :: cs) then 1 else 0) + occurrences p cs

/-- How often a tag stands in a page. -/
def count (tag page : String) : Nat :=
  occurrences tag.toList page.toList

/-- No end of a piece is the beginning of a tag without being all of it. -/
def Whole (p s : List Char) : Prop :=
  ∀ t, t <:+ s → t <+: p → t = [] ∨ t = p

/-- Whether a piece is whole, one end after another. -/
def isWhole (p : List Char) : List Char → Bool
  | [] => true
  | c :: cs => (!(c :: cs).isPrefixOf p || c :: cs == p) && isWhole p cs

theorem isWhole_iff (p s : List Char) : isWhole p s ↔ Whole p s := by
  induction s with
  | nil =>
      refine ⟨fun _ t ht _ => Or.inl (List.suffix_nil.mp ht), fun _ => rfl⟩
  | cons c cs ih =>
      simp only [isWhole, Bool.and_eq_true, ih, Bool.or_eq_true, Bool.not_eq_true', beq_iff_eq,
        ← Bool.not_eq_true, List.isPrefixOf_iff_prefix]
      constructor
      · rintro ⟨hfirst, hrest⟩ t ht hp
        rcases List.suffix_cons_iff.mp ht with rfl | ht
        · exact hfirst.elim (fun hno => absurd hp hno) Or.inr
        · exact hrest t ht hp
      · intro h
        refine ⟨?_, fun t ht => h t (ht.trans (List.suffix_cons c cs))⟩
        by_cases hp : c :: cs <+: p
        · exact Or.inr ((h _ (List.suffix_refl _) hp).resolve_left (List.cons_ne_nil c cs))
        · exact Or.inl hp

instance (p s : List Char) : Decidable (Whole p s) :=
  decidable_of_iff _ (isWhole_iff p s)

/-- A text has no angle bracket that could start a tag. -/
def Inert (s : String) : Prop :=
  '<' ∉ s.toList

instance (s : String) : Decidable (Inert s) :=
  inferInstanceAs (Decidable ('<' ∉ s.toList))

/-! ### Pieces -/

/-- A whole piece stays whole without its first character. -/
theorem whole_of_cons (p s : List Char) (c : Char) (h : Whole p (c :: s)) : Whole p s :=
  fun t ht => h t (ht.trans (List.suffix_cons c s))

/-- The tags of two pieces add up if the first is whole: a tag that begins in it ends in it. -/
theorem occurrences_append (p a b : List Char) (h : Whole p a) :
    occurrences p (a ++ b) = occurrences p a + occurrences p b := by
  induction a with
  | nil => exact (Nat.zero_add _).symm
  | cons c cs ih =>
      have hbegins : p <+: c :: (cs ++ b) ↔ p <+: c :: cs := by
        have hfront : c :: cs <+: c :: (cs ++ b) := List.prefix_append (c :: cs) b
        refine ⟨fun hp => ?_, fun hp => hp.trans hfront⟩
        rcases List.prefix_or_prefix_of_prefix hp hfront with hp | hlong
        · exact hp
        · -- A tag that is longer than the rest of the piece would begin at its end.
          rcases h (c :: cs) (List.suffix_refl _) hlong with hnil | heq
          · exact absurd hnil (List.cons_ne_nil c cs)
          · exact heq ▸ List.prefix_refl _
      rw [← List.isPrefixOf_iff_prefix, ← List.isPrefixOf_iff_prefix, ← Bool.eq_iff_iff] at hbegins
      simp only [List.cons_append, occurrences, hbegins, ih (whole_of_cons p cs c h)]
      omega

/-- Two whole pieces make a whole one. An end that reaches back into the first piece would have to
    be a beginning there. -/
theorem whole_append (p a b : List Char) (ha : Whole p a) (hb : Whole p b) : Whole p (a ++ b) := by
  intro t ht hp
  rcases List.suffix_or_suffix_of_suffix ht (List.suffix_append a b) with ht | ⟨u, rfl⟩
  · exact hb t ht hp
  · have hu : u <:+ a := by
      rcases ht with ⟨w, hw⟩
      rw [← List.append_assoc] at hw
      exact ⟨w, List.append_cancel_right hw⟩
    rcases ha u hu ((List.prefix_append u b).trans hp) with rfl | rfl
    · exact hb b (List.suffix_refl b) hp
    · have hnil : b = [] := List.append_right_eq_self.mp (hp.eq_of_length_le (by simp))
      exact Or.inr (by rw [hnil, List.append_nil])

/-! ### Texts without angle brackets -/

theorem whole_of_inert (tag : List Char) (s : String) (h : Inert s) :
    Whole ('<' :: tag) s.toList := by
  intro t ht hp
  cases t with
  | nil => exact Or.inl rfl
  | cons c cs =>
      have hc : c = '<' := (List.cons_prefix_cons.mp hp).1
      exact absurd (hc ▸ ht.subset List.mem_cons_self) h

theorem occurrences_of_inert (tag : List Char) (s : String) (h : Inert s) :
    occurrences ('<' :: tag) s.toList = 0 := by
  have hnone : ∀ cs : List Char, '<' ∉ cs → occurrences ('<' :: tag) cs = 0 := by
    intro cs
    induction cs with
    | nil => exact fun _ => rfl
    | cons c cs ih =>
        intro h
        rw [List.mem_cons, not_or] at h
        rw [occurrences, ih h.2, if_neg fun hp =>
          h.1 (List.cons_prefix_cons.mp (List.isPrefixOf_iff_prefix.mp hp)).1]
  exact hnone s.toList h

theorem inert_append (a b : String) (ha : Inert a) (hb : Inert b) : Inert (a ++ b) := by
  unfold Inert
  rw [String.toList_append, List.mem_append]
  exact fun h => h.elim ha hb

/-- The characters that are written as entities, but for the one that entities begin with. -/
def marks : List Char :=
  ['<', '>', '"', '\'']

/-- An escaped text has none of these characters, whatever was escaped. -/
theorem not_mem_escape (d : Char) (hd : d ∈ marks) (s : String) : d ∉ (escape s).toList := by
  unfold escape
  rw [String.toList_ofList, List.mem_flatMap]
  rintro ⟨c, -, hc⟩
  -- A mark can come out of an entity or stand for itself, and it does neither.
  have hentity : ∀ e, entity? c = some e → (marks.all fun d => !e.toList.contains d) = true := by
    intro e he
    unfold entity? at he
    split at he
    case h_6 => cases he
    all_goals
      cases he
      decide
  have hself : (marks.all fun d => (entity? d).isSome) = true := by decide
  cases he : entity? c with
  | some e =>
      rw [escapeChar, he] at hc
      have hnone := List.all_eq_true.mp (hentity e he) d hd
      rw [List.contains_iff_mem.mpr hc] at hnone
      cases hnone
  | none =>
      rw [escapeChar, he, List.mem_singleton] at hc
      have hsome := List.all_eq_true.mp hself d hd
      rw [hc, he] at hsome
      cases hsome

/-- An escaped text has no angle bracket. -/
theorem inert_escape (s : String) : Inert (escape s) :=
  not_mem_escape '<' (by decide) s

end Markup

end RunReport
