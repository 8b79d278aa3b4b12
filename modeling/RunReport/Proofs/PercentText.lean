import RunReport.Proofs.FormEncoding
import RunReport.Url.Percent

/-!
# Percent Encoding Once

A text in which everything that needs it is written by its bytes is not changed by doing so again.

A byte is written with a percent sign and two digits, and none of these needs to be written by its
bytes in any part of a URL. So the second time there is nothing left to do: `encode_encode`.

Dots need more care, since a segment of dots is no segment but a step in the path, and `%2E` counts
as a dot. Nothing that is written by its bytes begins with the byte of a dot, so a written segment
is made of dots only if the segment was (`encode_eq_of_dots`).

## Main definitions

* `Percent.signs`: The characters that bytes are written with.
* `Percent.Plain`: No character of a text needs to be written by its bytes.
* `Percent.MarksDots`: Every percent sign of a text begins a dot.

## Theorems

* `encodeChar_cases`, `mem_signs_or_of_mem_encode`, `mem_signs_or_of_head?`,
  `mem_signs_or_of_getLast?`: The characters of a written text.
* `plain_encode`, `encode_of_plain`, `encode_encode`: Writing a text twice.
* `code_of_plain`, `not_mem_of_plain`: What is not in a plain text.
* `encode_eq_of_dots`: A written text of dots is the text.
-/

namespace RunReport

namespace Percent

open FormEncoding

/-- The characters that bytes are written with. -/
def signs : List Char :=
  "%0123456789ABCDEF".toList

/-- No character of a text needs to be written by its bytes. -/
def Plain (needs : Char → Bool) (cs : List Char) : Prop :=
  ∀ c ∈ cs, isControl c = false ∧ needs c = false

instance (needs : Char → Bool) (cs : List Char) : Decidable (Plain needs cs) :=
  List.decidableBAll _ cs

/-! ### Writing twice -/

section Writing

variable (needs : Char → Bool) (cs : List Char)

/-- A character stands for itself, or is written with a percent sign and what goes with it. -/
theorem encodeChar_cases (c : Char) :
    encodeChar needs c = [c] ∧ isControl c = false ∧ needs c = false ∨
      encodeChar needs c ≠ [] ∧ ∀ d ∈ encodeChar needs c, d ∈ signs := by
  have hall : ∀ b, (percent b).all (· ∈ signs) := forall_byte _ (by decide +kernel)
  have hsigns : ∀ b, ∀ d ∈ percent b, d ∈ signs := fun b =>
    List.all_iff_forall_prop.mp (hall b)
  rw [encodeChar]
  by_cases hneeds : isControl c || needs c
  · -- Every character has a first byte, so something is written.
    rcases Utf8.step_encodeChar c [] with ⟨b, bs, hbytes, -⟩
    rw [if_pos hneeds, hbytes, List.flatMap_cons]
    refine Or.inr ⟨List.cons_ne_nil _ _, ?_⟩
    rw [← List.flatMap_cons]
    intro d hd
    rcases List.mem_flatMap.mp hd with ⟨b, -, hb⟩
    exact hsigns b d hb
  · rw [if_neg hneeds]
    rw [Bool.or_eq_true, not_or, Bool.not_eq_true, Bool.not_eq_true] at hneeds
    exact Or.inl ⟨rfl, hneeds⟩

/-- A character of a written text is one of the text that needs no percent sign, or one that bytes
    are written with. -/
theorem mem_signs_or_of_mem_encode : ∀ c ∈ encode needs cs,
    c ∈ signs ∨ c ∈ cs ∧ isControl c = false ∧ needs c = false := by
  intro c hc
  rcases List.mem_flatMap.mp hc with ⟨d, hd, hmem⟩
  rcases encodeChar_cases needs d with ⟨hself, hplain⟩ | ⟨-, hsigns⟩
  · rw [hself, List.mem_singleton] at hmem
    rw [hmem]
    exact Or.inr ⟨hd, hplain⟩
  · exact Or.inl (hsigns c hmem)

/-- A written text begins with the first character of the text, or with one that bytes are written
    with. -/
theorem mem_signs_or_of_head? : ∀ c ∈ (encode needs cs).head?, c ∈ signs ∨ c ∈ cs.head? := by
  cases cs with
  | nil => exact fun c hc => absurd hc (by simp [encode])
  | cons d cs =>
      have hcons : encode needs (d :: cs) = encodeChar needs d ++ encode needs cs := rfl
      rcases encodeChar_cases needs d with ⟨hself, -⟩ | ⟨hne, hsigns⟩
      · rw [hcons, hself]
        exact fun c hc => Or.inr hc
      · rw [hcons, List.head?_append_of_ne_nil _ hne]
        exact fun c hc => Or.inl (hsigns c (List.mem_of_mem_head? hc))

/-- A written text ends with the last character of the text, or with one that bytes are written
    with. -/
theorem mem_signs_or_of_getLast? :
    ∀ c ∈ (encode needs cs).getLast?, c ∈ signs ∨ c ∈ cs.getLast? := by
  rcases List.eq_nil_or_concat cs with rfl | ⟨front, d, rfl⟩
  · exact fun c hc => absurd hc (by simp [encode])
  · have hconcat : encode needs (front ++ [d]) = encode needs front ++ encodeChar needs d := by
      rw [encode, List.flatMap_append, List.flatMap_singleton]
      rfl
    rcases encodeChar_cases needs d with ⟨hself, -⟩ | ⟨hne, hsigns⟩
    · rw [List.concat_eq_append, hconcat, hself, List.getLast?_concat, List.getLast?_concat]
      exact fun c hc => Or.inr hc
    · rw [List.concat_eq_append, hconcat, List.getLast?_append_of_ne_nil _ hne]
      exact fun c hc => Or.inl (hsigns c (List.mem_of_getLast? hc))

/-- A written text is plain where the characters that bytes are written with are. -/
theorem plain_encode (hsigns : Plain needs signs) : Plain needs (encode needs cs) := by
  intro c hc
  rcases mem_signs_or_of_mem_encode needs cs c hc with h | ⟨-, h⟩
  · exact hsigns c h
  · exact h

/-- Characters that need no percent sign are kept. -/
theorem encode_of_plain (h : Plain needs cs) : encode needs cs = cs := by
  have hchar : ∀ c ∈ cs, encodeChar needs c = [c] := by
    intro c hc
    rw [encodeChar, (h c hc).1, (h c hc).2]
    rfl
  rw [encode, List.flatMap_congr hchar, List.flatMap_singleton']

theorem encode_encode (hsigns : Plain needs signs) :
    encode needs (encode needs cs) = encode needs cs :=
  encode_of_plain needs _ (plain_encode needs cs hsigns)

/-- Where a blank needs it, no character of a plain text is one. -/
theorem code_of_plain (c : Char) (hblank : needs ' ' = true)
    (h : isControl c = false ∧ needs c = false) : 0x20 < c.toNat := by
  rcases h with ⟨hcontrol, hneeds⟩
  rw [isControl, Bool.or_eq_false_iff, decide_eq_false_iff_not] at hcontrol
  have hne : c.toNat ≠ 0x20 := by
    intro hc
    rw [show c = ' ' from Char.toNat_inj.mp hc, hblank] at hneeds
    cases hneeds
  omega

/-- A sign that needs it is not in a plain text. -/
theorem not_mem_of_plain (sign : Char) (hsign : needs sign = true) (h : Plain needs cs) :
    sign ∉ cs := by
  intro hmem
  rw [(h sign hmem).2] at hsign
  cases hsign

end Writing

/-- The signs that need it in some part of a URL are none that bytes are written with. -/
theorem plain_signs : Plain nowhere signs ∧ Plain inFragment signs ∧ Plain inQuery signs ∧
    Plain inCommonQuery signs ∧ Plain inPath signs ∧ Plain inUser signs := by
  decide +kernel

/-! ### Dots -/

/-- Every percent sign of a text begins a dot, in lower case. -/
def MarksDots (cs : List Char) : Prop :=
  ∀ rest, '%' :: rest <:+ cs → ['2', 'e'] <+: rest

/-- What is written by its bytes in a path does not begin with the byte of a dot. -/
theorem encodeChar_ne_dot (c : Char) (h : isControl c || inPath c) :
    ∃ high low rest, encodeChar inPath c = '%' :: high :: low :: rest ∧
      ¬(high.toLower = '2' ∧ low.toLower = 'e') := by
  have hdot : ∀ b : UInt8, (hexDigit (b.toNat / 16)).toLower = '2' ∧
      (hexDigit (b.toNat % 16)).toLower = 'e' → b = 0x2E :=
    forall_byte _ (by decide +kernel)
  rcases Utf8.step_encodeChar c [] with ⟨b, bs, hbytes, hstep⟩
  refine ⟨hexDigit (b.toNat / 16), hexDigit (b.toNat % 16), bs.flatMap percent, ?_, fun heq => ?_⟩
  · rw [encodeChar, if_pos h, hbytes, List.flatMap_cons]
    rfl
  · -- The byte of a dot is a character of its own, and a dot needs no percent sign.
    rw [hdot b heq, Utf8.step_one _ _ (by decide)] at hstep
    have hc : c = '.' := (Option.some.inj (congrArg Prod.fst hstep)).symm
    rw [hc] at h
    exact absurd h (by decide)

/-- A written text whose percent signs begin dots is the text itself. -/
theorem encode_eq_of_dots (cs : List Char) (h : MarksDots ((encode inPath cs).map Char.toLower)) :
    encode inPath cs = cs := by
  induction cs with
  | nil => rfl
  | cons c cs ih =>
      have hcons : encode inPath (c :: cs) = encodeChar inPath c ++ encode inPath cs := rfl
      rw [hcons] at h ⊢
      by_cases hneeds : isControl c || inPath c
      · -- The first percent sign would be the one of a dot.
        rcases encodeChar_ne_dot c hneeds with ⟨high, low, rest, hwritten, hne⟩
        rw [hwritten, List.cons_append, List.cons_append, List.cons_append] at h
        have hdot : ['2', 'e'] <+: high.toLower :: low.toLower :: _ := h _ List.suffix_rfl
        rw [List.cons_prefix_cons, List.cons_prefix_cons] at hdot
        exact absurd ⟨hdot.1.symm, hdot.2.1.symm⟩ hne
      · have hself : encodeChar inPath c = [c] := if_neg hneeds
        rw [hself] at h ⊢
        rw [List.singleton_append, ih fun rest hrest => h rest (hrest.trans (List.suffix_cons _ _))]

end Percent

end RunReport
