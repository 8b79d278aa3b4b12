import Mathlib.Data.List.Basic
import RunReport.Proofs.Reading
import RunReport.Proofs.Utf8
import RunReport.Query
import RunReport.Url.Basic

/-!
# Queries Read Back

The parameters that a query of written pairs has when it is read.

A link is written by one piece of code and read by another. What is written is made of letters,
digits and a few signs, none of which means anything in a query, so whatever a name or a value looks
like, the reader cuts the query where the writer joined it: `pairs_append` says that the pairs of
two queries with an ampersand between them are those of both, and `pairs_pairText` that a written
pair is read as that pair. Reading also drops question marks in front, and a written query never
begins with one.

How a byte is written and read back is a matter of 256 cases, `wire_cases`. The rest goes by
induction on the text.

## Main definitions

* `FormEncoding.wire`: The bytes that one byte is written as.
* `FormEncoding.blanked`: A byte as the reader takes it before it looks for percent signs.
* `FormEncoding.isWritten`: The characters that texts are written with.
* `FormEncoding.isQueryChar`: The characters of a query of written pairs.

## Theorems

* `forall_byte`, `forall_ascii`: What holds of all numbers below a limit holds of every byte, and
  of every character of ASCII.
* `wire_cases`: A byte is written as itself or as a plus sign, or with a percent sign.
* `unescape_wire`: Reading a written byte gives the byte, whatever comes after it.
* `unescape_of_not_mem`: Bytes without percent signs are kept.
* `decode_encode`: A text is read back from its encoding.
* `isWritten_encode`, `isQueryChar_pairsText`: Texts and pairs are written with few characters.
* `not_mem_encode`: No text is written with a separator.
* `cutAt_append`, `pairs_append`: Two queries with an ampersand between them.
* `pairs_pairText`, `pairs_pairsText`: Written pairs are read as these pairs.
* `read_marks`: Question marks in front of a query do not count.
* `read_pairsText`: The parameters of a query of written pairs.
* `read_append`: The parameters of a query that goes on with written pairs.
-/

namespace RunReport

namespace FormEncoding

/-- The bytes that one byte is written as. -/
def wire (b : UInt8) : List UInt8 :=
  Utf8.encode (encodeByte b)

/-- A byte as it is taken before percent signs are resolved: a plus sign stands for a blank. -/
def blanked (b : UInt8) : UInt8 :=
  if b == 0x2B then 0x20 else b

/-- The characters that texts are written with. -/
def isWritten (c : Char) : Bool :=
  c.toNat < 0x80 && (c.isAlphanum || c ∈ ['*', '-', '.', '_', '+', '%'])

/-! ### Texts read back -/

/-- What holds of 256 numbers as bytes holds of every byte. -/
theorem forall_byte (P : UInt8 → Prop) (h : ∀ n < 256, P n.toUInt8) (b : UInt8) : P b := by
  have hb := h b.toNat b.toNat_lt
  rwa [show b.toNat.toUInt8 = b from UInt8.ofNat_toNat] at hb

/-- What holds of 128 numbers as characters holds of every character of ASCII. -/
theorem forall_ascii (P : Char → Prop) (h : ∀ n < 0x80, P (Char.ofNat n)) (c : Char)
    (hc : c.toNat < 0x80) : P c := by
  have hcode := h c.toNat hc
  rwa [Char.ofNat_toNat] at hcode

/-- A byte is written as itself or as a plus sign, or by a percent sign and two digits that write
    it. -/
theorem wire_cases (b : UInt8) :
    (wire b).map blanked = [b] ∧ b ≠ 0x25 ∨
      ∃ high low, (wire b).map blanked = [0x25, high, low] ∧ byteOf? high low = some b := by
  let digit (n : Nat) : UInt8 := (hexDigit n).toNat.toUInt8
  have hall : ∀ b : UInt8, (wire b).map blanked = [b] ∧ b ≠ 0x25 ∨
      (wire b).map blanked = [0x25, digit (b.toNat / 16), digit (b.toNat % 16)] ∧
        byteOf? (digit (b.toNat / 16)) (digit (b.toNat % 16)) = some b :=
    forall_byte _ (by decide +kernel)
  rcases hall b with hself | hpercent
  · exact Or.inl hself
  · exact Or.inr ⟨_, _, hpercent⟩

/-- Only a percent sign is resolved. -/
theorem escaped?_of_ne (b : UInt8) (rest : List UInt8) (hb : b ≠ 0x25) :
    escaped? b rest = none := by
  unfold escaped?
  split
  · rw [beq_eq_false_iff_ne.mpr hb]
    rfl
  · rfl

/-- Reading a written byte gives the byte, whatever comes after it. -/
theorem unescape_wire (b : UInt8) (rest : List UInt8) :
    unescape 0 ((wire b).map blanked ++ rest) = b :: unescape 0 rest := by
  rcases wire_cases b with ⟨hself, hb⟩ | ⟨high, low, hwire, hbyte⟩
  · rw [hself, List.singleton_append, unescape, escaped?_of_ne b rest hb]
  · have hescaped : escaped? 0x25 (high :: low :: rest) = some b := hbyte
    rw [hwire, List.cons_append, unescape]
    simp only [List.cons_append, List.nil_append, hescaped, unescape]

/-- Without percent signs there is nothing to resolve. -/
theorem unescape_of_not_mem (bs : List UInt8) (h : (0x25 : UInt8) ∉ bs) : unescape 0 bs = bs := by
  induction bs with
  | nil => rfl
  | cons b bs ih =>
      rw [List.mem_cons, not_or] at h
      rw [unescape, escaped?_of_ne b bs fun hb => h.1 hb.symm, ih h.2]

/-- Bytes are read back from how they are written. -/
theorem decodeBytes_encodeBytes (bs : List UInt8) :
    decodeBytes (Utf8.encode (encodeBytes bs)) = bs := by
  induction bs with
  | nil => rfl
  | cons b bs ih =>
      have hcons : Utf8.encode (encodeBytes (b :: bs)) = wire b ++ Utf8.encode (encodeBytes bs) :=
        Utf8.encode_append _ _
      rw [decodeBytes, hcons, List.map_append]
      exact (unescape_wire b _).trans (congrArg (b :: ·) ih)

/-- A text is read back from its encoding. -/
theorem decode_encode (s : String) : decode (Utf8.encode (encode s).toList) = s := by
  rw [decode, encode, String.toList_ofList, decodeBytes_encodeBytes, Utf8.decodeLossy_encode,
    String.ofList_toList]

/-- Texts are written with few characters. -/
theorem isWritten_encode (s : String) : ∀ c ∈ (encode s).toList, isWritten c := by
  have hall : ∀ b, (encodeByte b).all isWritten := forall_byte _ (by decide +kernel)
  intro c hc
  rw [encode, String.toList_ofList, encodeBytes, List.mem_flatMap] at hc
  rcases hc with ⟨b, -, hc⟩
  exact List.all_eq_true.mp (hall b) c hc

/-- No text is written with a byte that separates names and values. -/
theorem not_mem_encode (s : String) :
    (0x26 : UInt8) ∉ Utf8.encode (encode s).toList ∧
      (0x3D : UInt8) ∉ Utf8.encode (encode s).toList := by
  have hwire : ∀ b, (0x26 : UInt8) ∉ wire b ∧ (0x3D : UInt8) ∉ wire b :=
    forall_byte _ (by decide +kernel)
  have hbytes : Utf8.encode (encode s).toList = (Utf8.encode s.toList).flatMap wire := by
    rw [encode, String.toList_ofList]
    exact List.flatMap_assoc
  rw [hbytes, List.mem_flatMap, List.mem_flatMap]
  exact ⟨fun ⟨b, _, h⟩ => (hwire b).1 h, fun ⟨b, _, h⟩ => (hwire b).2 h⟩

/-! ### Queries cut into pairs -/

theorem cutAt_ne_nil (sep : UInt8) (bs : List UInt8) : cutAt sep bs ≠ [] := by
  cases bs with
  | nil => exact List.cons_ne_nil _ _
  | cons b bs =>
      rw [cutAt]
      split
      · exact List.cons_ne_nil _ _
      · split <;> exact List.cons_ne_nil _ _

/-- Cutting starts anew behind every separator. -/
theorem cutAt_append (sep : UInt8) (as bs : List UInt8) :
    cutAt sep (as ++ sep :: bs) = cutAt sep as ++ cutAt sep bs := by
  induction as with
  | nil =>
      have hcut : cutAt sep (sep :: bs) = [] :: cutAt sep bs := by
        rw [cutAt, if_pos (beq_self_eq_true sep)]
      exact hcut
  | cons a as ih =>
      rw [List.cons_append, cutAt, ih, cutAt]
      split
      · rfl
      · cases hcut : cutAt sep as with
        | nil => exact absurd hcut (cutAt_ne_nil sep as)
        | cons part rest => rfl

/-- Without separators there is one part. -/
theorem cutAt_of_not_mem (sep : UInt8) (bs : List UInt8) (h : sep ∉ bs) : cutAt sep bs = [bs] := by
  induction bs with
  | nil => rfl
  | cons b bs ih =>
      rw [List.mem_cons, not_or] at h
      rw [cutAt, if_neg (by rw [beq_iff_eq]; exact fun hb => h.1 hb.symm), ih h.2]

/-- The pairs of two queries with an ampersand between them are those of both. -/
theorem pairs_append (as bs : List Char) : pairs (as ++ '&' :: bs) = pairs as ++ pairs bs := by
  have hbytes : Utf8.encode (as ++ '&' :: bs) = Utf8.encode as ++ 0x26 :: Utf8.encode bs :=
    Utf8.encode_append as ('&' :: bs)
  rw [pairs, hbytes, cutAt_append, List.filter_append, List.map_append]
  rfl

/-- A pair is read as that pair: there is no ampersand in it, and the first equals sign stands
    between its name and its value. -/
theorem pairs_pairText (p : String × String) : pairs (Url.pairText p).toList = [p] := by
  have hbytes : Utf8.encode (Url.pairText p).toList
      = Utf8.encode (encode p.1).toList ++ 0x3D :: Utf8.encode (encode p.2).toList := by
    have hequals : Utf8.encode "=".toList = [0x3D] := by
      decide +kernel
    rw [Url.pairText, String.toList_append, String.toList_append, Utf8.encode_append,
      Utf8.encode_append, hequals, List.append_assoc, List.singleton_append]
  have hname := (not_mem_encode p.1).2
  -- Neither sign of the form is written in a name or a value, so the text is cut where it was
  -- joined.
  have hamp : (0x26 : UInt8) ∉ Utf8.encode (Url.pairText p).toList := by
    rw [hbytes, List.mem_append, List.mem_cons]
    rintro (h | h | h)
    · exact (not_mem_encode p.1).1 h
    · exact absurd h (by decide)
    · exact (not_mem_encode p.2).1 h
  have hne : Utf8.encode (Url.pairText p).toList ≠ [] := by
    rw [hbytes]
    exact List.append_ne_nil_of_right_ne_nil _ (List.cons_ne_nil _ _)
  have hstop : (Utf8.encode (Url.pairText p).toList).takeWhile (· != 0x3D)
      = Utf8.encode (encode p.1).toList := by
    rw [hbytes, List.takeWhile_append_of_pos fun b hb => ?_]
    · rw [List.takeWhile_cons_of_neg (by decide), List.append_nil]
    · rw [bne_iff_ne]
      exact fun h => hname (h ▸ hb)
  have hpair : pairOf (Utf8.encode (Url.pairText p).toList) = p := by
    rw [pairOf, hstop, decode_encode, hbytes, List.drop_append, List.drop_eq_nil_of_le (by omega),
      Nat.add_sub_cancel_left, List.nil_append, List.drop_succ_cons, List.drop_zero, decode_encode]
  rw [pairs, cutAt_of_not_mem _ _ hamp, List.filter_cons_of_pos, List.filter_nil,
    List.map_singleton, hpair]
  rw [List.isEmpty_eq_false_iff.mpr hne]
  rfl

/-- A list of pairs is written as its first pair, an ampersand, and the others. -/
theorem toList_pairsText_cons (p p' : String × String) (ps : List (String × String)) :
    (Url.pairsText (p :: p' :: ps)).toList
      = (Url.pairText p).toList ++ '&' :: (Url.pairsText (p' :: ps)).toList := by
  rw [Url.pairsText, List.map_cons, List.map_cons, String.intercalate_cons_cons,
    String.toList_append, String.toList_append, List.append_assoc]
  rfl

/-- Written pairs are read as these pairs. -/
theorem pairs_pairsText (ps : List (String × String)) : pairs (Url.pairsText ps).toList = ps := by
  induction ps with
  | nil => rfl
  | cons p ps ih =>
      cases ps with
      | nil =>
          rw [Url.pairsText, List.map_singleton, String.intercalate_singleton]
          exact pairs_pairText p
      | cons p' ps =>
          rw [toList_pairsText_cons, pairs_append, pairs_pairText, ih]
          rfl

/-- The characters of a query of written pairs. -/
def isQueryChar (c : Char) : Bool :=
  isWritten c || c ∈ ['=', '&']

theorem isQueryChar_pairText (p : String × String) :
    ∀ c ∈ (Url.pairText p).toList, isQueryChar c := by
  have hwritten : ∀ s, ∀ c ∈ (encode s).toList, isQueryChar c := fun s c hc =>
    Bool.or_eq_true_iff.mpr (Or.inl (isWritten_encode s c hc))
  rw [Url.pairText, String.toList_append, String.toList_append, List.forall_mem_append,
    List.forall_mem_append]
  exact ⟨⟨hwritten p.1, List.all_eq_true.mp (by decide)⟩, hwritten p.2⟩

theorem isQueryChar_pairsText (ps : List (String × String)) :
    ∀ c ∈ (Url.pairsText ps).toList, isQueryChar c := by
  induction ps with
  | nil => exact fun c hc => absurd hc List.not_mem_nil
  | cons p ps ih =>
      cases ps with
      | nil =>
          rw [Url.pairsText, List.map_singleton, String.intercalate_singleton]
          exact isQueryChar_pairText p
      | cons p' ps =>
          rw [toList_pairsText_cons, List.forall_mem_append, List.forall_mem_cons]
          exact ⟨isQueryChar_pairText p, by decide, ih⟩

end FormEncoding

namespace Query

open FormEncoding

/-- Question marks in front of a query do not count. -/
theorem read_marks (marks q : String) (h : marks.toList.all (· = '?')) :
    read (marks ++ q) = read q := by
  have hdrop : (marks ++ q).toList.dropWhile (· = '?') = q.toList.dropWhile (· = '?') := by
    rw [String.toList_append]
    exact List.dropWhile_append_of_pos (List.all_eq_true.mp h)
  rw [read, read, hdrop]

/-- The parameters of a query of written pairs are these pairs. It never begins with a question
    mark, so reading drops nothing of it. -/
theorem read_pairsText (ps : List (String × String)) :
    (read (Url.pairsText ps)).parameters = ps := by
  have hstays : (Url.pairsText ps).toList.dropWhile (· = '?') = (Url.pairsText ps).toList := by
    have hchars := isQueryChar_pairsText ps
    cases hcs : (Url.pairsText ps).toList with
    | nil => rfl
    | cons c cs =>
        rw [hcs] at hchars
        refine List.dropWhile_cons_of_neg fun hmark => ?_
        have hc := hchars c List.mem_cons_self
        rw [decide_eq_true_eq] at hmark
        exact absurd (hmark ▸ hc) (by decide)
  rw [read, hstays]
  exact pairs_pairsText ps

/-- The parameters of a query that goes on with written pairs are its own and these pairs. -/
theorem read_append (q : String) (ps : List (String × String)) :
    (read (q ++ "&" ++ Url.pairsText ps)).parameters = (read q).parameters ++ ps := by
  have hchars : (q ++ "&" ++ Url.pairsText ps).toList
      = q.toList ++ '&' :: (Url.pairsText ps).toList := by
    rw [String.toList_append, String.toList_append, List.append_assoc]
    rfl
  rw [read, hchars, dropWhile_stop _ _ _ '&' (by decide)]
  exact (pairs_append _ _).trans (congrArg (_ ++ ·) (pairs_pairsText ps))

end Query

end RunReport
