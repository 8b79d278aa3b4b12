import RunReport.Proofs.FormEncoding

/-!
# The Text of a Query and its Parameters

Any pairs of names and values can be written as a query, and reading the query gives them back.

`read_pairsText` has the pairs of a written query as a list. A reader of the query sees less: it
asks for one name and gets one value. This module says what the value is in terms of the pairs that
were written: the value of the first pair with that name, whatever stands in the other pairs, and
none if no pair has the name. Nothing is asked of the names and values. They may be empty, be
repeated, or be made of the signs that the query itself is made of.

That these signs cannot be mistaken is a matter of how a text is written. `Spelled` is the grammar
of written texts: signs that stand for themselves or for a blank, and a percent sign always with its
two digits. Two texts are never written alike, because each is read back from what is written.

## Main definitions

* `FormEncoding.isSign`, `FormEncoding.isHexDigit`: The characters of a written text.
* `FormEncoding.Spelled`: The texts that are written in these characters.

## Theorems

* `spelled_encodeByte`, `spelled_encode`: Bytes and texts are written in these characters.
* `encode_injective`: No two texts are written alike.
* `parameter_eq_some_iff`, `parameter_eq_none_iff`: The value of a name among the parameters.
* `parameters_marked`: The parameters of written pairs behind question marks.
* `read_written`: A query of written pairs is read as these pairs.
-/

namespace RunReport

namespace FormEncoding

/-- The characters that stand alone in a written text. -/
def isSign (c : Char) : Bool :=
  c.isAlphanum || c ∈ ['*', '-', '.', '_', '+']

/-- The digits behind a percent sign. -/
def isHexDigit (c : Char) : Bool :=
  c ∈ "0123456789ABCDEF".toList

/-- Texts made of signs and of percent signs with two digits each. -/
inductive Spelled : List Char → Prop
  | nil : Spelled []
  | sign (c : Char) (rest : List Char) : isSign c → Spelled rest → Spelled (c :: rest)
  | percent (high low : Char) (rest : List Char) :
      isHexDigit high → isHexDigit low → Spelled rest → Spelled ('%' :: high :: low :: rest)

/-- A byte is written as a sign or by its two digits. -/
theorem spelled_encodeByte (b : UInt8) (rest : List Char) (h : Spelled rest) :
    Spelled (encodeByte b ++ rest) := by
  have hsign : ∀ b : UInt8, keeps b → isSign (Char.ofNat b.toNat) :=
    forall_byte _ (by decide +kernel)
  have hdigit : ∀ n < 16, isHexDigit (hexDigit n) := by
    decide +kernel
  have hb : b.toNat < 256 := b.toNat_lt
  unfold encodeByte
  by_cases hkeeps : keeps b
  · rw [if_pos hkeeps]
    exact Spelled.sign _ rest (hsign b hkeeps) h
  · rw [if_neg hkeeps]
    by_cases hblank : b == 0x20
    · rw [if_pos hblank]
      exact Spelled.sign '+' rest (by decide) h
    · rw [if_neg hblank]
      exact Spelled.percent _ _ rest (hdigit _ (by omega)) (hdigit _ (by omega)) h

/-- Every text is written in signs and percent signs with their digits. -/
theorem spelled_encode (s : String) : Spelled (encode s).toList := by
  have hbytes : ∀ bs, Spelled (encodeBytes bs) := by
    intro bs
    induction bs with
    | nil => exact Spelled.nil
    | cons b bs ih =>
        rw [encodeBytes, List.flatMap_cons]
        exact spelled_encodeByte b _ ih
  rw [encode, String.toList_ofList]
  exact hbytes (Utf8.encode s.toList)

/-- No two texts are written alike. -/
theorem encode_injective : Function.Injective encode := by
  intro s s' h
  have hread := congrArg (fun written => decode (Utf8.encode written.toList)) h
  simpa only [decode_encode] using hread

end FormEncoding

namespace Query

open FormEncoding

/-- The value of a name is that of the first parameter with this name. -/
theorem parameter_eq_some_iff (q : Query) (name value : String) :
    q.parameter name = some value ↔
      ∃ before after, q.parameters = before ++ (name, value) :: after ∧
        ∀ p ∈ before, p.1 ≠ name := by
  rw [parameter, Option.map_eq_some_iff]
  constructor
  · rintro ⟨⟨first, _⟩, hfind, rfl⟩
    rw [List.find?_eq_some_iff_append] at hfind
    rcases hfind with ⟨hname, before, after, hsplit, hbefore⟩
    have hname : first = name := of_decide_eq_true hname
    refine ⟨before, after, by rw [hsplit, hname], fun p hp => ?_⟩
    simpa only [Bool.not_eq_true', decide_eq_false_iff_not] using hbefore p hp
  · rintro ⟨before, after, hsplit, hbefore⟩
    refine ⟨(name, value), ?_, rfl⟩
    rw [List.find?_eq_some_iff_append]
    refine ⟨decide_eq_true rfl, before, after, hsplit, fun p hp => ?_⟩
    simpa only [Bool.not_eq_true', decide_eq_false_iff_not] using hbefore p hp

/-- A name has no value exactly if no parameter has this name. -/
theorem parameter_eq_none_iff (q : Query) (name : String) :
    q.parameter name = none ↔ ∀ p ∈ q.parameters, p.1 ≠ name := by
  rw [parameter, Option.map_eq_none_iff, List.find?_eq_none]
  simp only [decide_eq_true_eq, ne_eq]

/-- The parameters of written pairs are these pairs, whatever number of question marks stands in
    front of them. -/
theorem parameters_marked (marks : Nat) (ps : List (String × String)) :
    (read (String.ofList (List.replicate marks '?') ++ Url.pairsText ps)).parameters = ps := by
  have hmarks : (String.ofList (List.replicate marks '?')).toList.all (· = '?') := by
    rw [String.toList_ofList, List.all_eq_true]
    intro c hc
    exact decide_eq_true (List.eq_of_mem_replicate hc)
  rw [read_marks _ _ hmarks, read_pairsText]

/-- A query of written pairs is read as these pairs. Behind any number of question marks, a name has
    the value of the first pair with this name, and no value if there is none. No two texts are
    written alike, and a written text has only letters, digits, a few signs, and percent signs with
    two digits. -/
theorem read_written :
    (∀ (marks : Nat) (ps : List (String × String)) (name : String),
      let q := read (String.ofList (List.replicate marks '?') ++
        "&".intercalate (ps.map fun p => encode p.1 ++ "=" ++ encode p.2))
      (∀ value, q.parameter name = some value ↔
        ∃ before after, ps = before ++ (name, value) :: after ∧ ∀ p ∈ before, p.1 ≠ name) ∧
      (q.parameter name = none ↔ ∀ p ∈ ps, p.1 ≠ name)) ∧
    Function.Injective encode ∧
    ∀ s, Spelled (encode s).toList := by
  refine ⟨fun marks ps name => ?_, encode_injective, spelled_encode⟩
  intro q
  have hq : q.parameters = ps := parameters_marked marks ps
  refine ⟨fun value => ?_, ?_⟩
  · rw [parameter_eq_some_iff, hq]
  · rw [parameter_eq_none_iff, hq]

/-- Separators within names and values, a repeated name, and a name and a value that are empty. -/
example :
    let q := read ("??" ++ Url.pairsText [("a&b", "=?"), ("a&b", "2"), ("", "")])
    q.parameter "a&b" = some "=?" ∧ q.parameter "" = some "" ∧ q.parameter "a" = none := by
  decide +kernel

end Query

end RunReport
