import Mathlib.Algebra.GroupWithZero.Nat
import RunReport.Proofs.Numeral
import RunReport.Proofs.PercentText
import RunReport.Proofs.Segments
import RunReport.Url.Host

/-!
# Hosts in Their Usual Form

A host that was read is written in a form that is read as itself.

The reader has many spellings for one host, and one form that it writes. Reading this form again has
to come to the same, for each kind of host. An address of four bytes is written by four numbers
without zeros in front, so each is read in base 10 and as one byte. An address of eight numbers has
one run of zeros left out; that what is left out was zeros is the invariant of the search for the
longest run (`zeros_longestZeros`), and the two colons in its place are the first two in a row,
since no number is written by nothing (`splitDouble_joined`). A name has no percent signs any more,
and that bringing it into letters of ASCII keeps it is what is known of the library.

What a host is made of keeps it apart from what stands around it in a URL: its colons, if any, are
in brackets.

## Main definitions

* `Host.bytesOf`: The four bytes of a number.
* `Host.numbersText`, `Host.innerText`: Numbers between colons, and eight numbers as an address.
* `Host.Inside`: A character that ends no host.
* `Host.Shaped`: What a host looks like.
* `Host.Named`: What a host of a common scheme is, if it is not in brackets.

## Theorems

* `fourBytes?_fourBytesText`: Addresses of four bytes.
* `valueIn?_hexDigits`, `length_hexDigits_le`: Numbers in base 16.
* `splitDouble_joined`, `zeros_longestZeros`: The run of zeros that is left out.
* `eightNumbers?_innerText`, `bounds_of_eightNumbers?`: Addresses of eight numbers.
* `bracketed_spec`, `named_of_ofName`, `read_of_named`: Hosts in brackets, and names.
* `read_spec`, `readOpaque_spec`: A host that was read is read as itself, and is shaped.
-/

namespace RunReport

namespace Numeral

theorem digitIn?_lt (base : Nat) (c : Char) (d : Nat) (h : digitIn? base c = some d) :
    d < base := by
  rcases Option.ite_none_right_eq_some.mp h with ⟨hlt, heq⟩
  exact Option.some.inj heq ▸ hlt

/-- Digits write less than the first number that needs one more. -/
theorem foldl_digits_lt (base : Nat) (ds : List Nat) (h : ∀ d ∈ ds, d < base) :
    ds.foldl (fun n d => base * n + d) 0 < base ^ ds.length := by
  -- The last digit counts least, so it is the one that is taken off.
  induction ds using List.reverseRecOn with
  | nil => exact Nat.one_pos
  | append_singleton ds d ih =>
      rw [List.forall_mem_append, List.forall_mem_singleton] at h
      have hfront := ih h.1
      rw [List.foldl_append, List.length_append, List.length_singleton, Nat.pow_succ, Nat.mul_comm]
      calc base * ds.foldl (fun n d => base * n + d) 0 + d
          < base * ds.foldl (fun n d => base * n + d) 0 + base := Nat.add_lt_add_left h.2 _
        _ = base * (ds.foldl (fun n d => base * n + d) 0 + 1) := (Nat.mul_succ _ _).symm
        _ ≤ base * base ^ ds.length := Nat.mul_le_mul_left base hfront

theorem valueIn?_lt (base : Nat) (cs : List Char) (n : Nat) (h : valueIn? base cs = some n) :
    n < base ^ cs.length := by
  rw [valueIn?] at h
  split at h
  · cases h
  · rcases Option.map_eq_some_iff.mp h with ⟨ds, hds, rfl⟩
    have hread := (mapM_eq_some_iff _ cs ds).mp hds
    have hlength : cs.length = ds.length := by
      rw [← List.length_map (digitIn? base), hread, List.length_map]
    rw [hlength]
    refine foldl_digits_lt base ds fun d hd => ?_
    rcases List.mem_map.mp (hread ▸ List.mem_map_of_mem hd) with ⟨c, -, hc⟩
    exact digitIn?_lt base c d hc

end Numeral

namespace Host

open FormEncoding

/-! ### Addresses of four bytes -/

/-- A number below 256 is read back from its digits: the first of them is no zero, unless it is the
    only one. -/
theorem part?_decimal (n : Nat) (h : n < 256) : part? (Numeral.decimal n) = some n := by
  -- A byte has few texts, so they are tried; how many digits it has decides about the base.
  have hall : ∀ n < 256, part? (Numeral.decimal n) = some n := by
    decide +kernel
  exact hall n h

theorem not_mem_decimal (sign : Char) (n : Nat) (hsign : sign.isDigit = false) :
    sign ∉ Numeral.decimal n := by
  intro hmem
  rw [Numeral.isDigit_of_mem_decimal n sign hmem] at hsign
  cases hsign

/-- The bytes of an address. -/
def bytesOf (n : Nat) : List Nat :=
  [n / 16777216 % 256, n / 65536 % 256, n / 256 % 256, n % 256]

/-- An address of four bytes has one part for each byte. -/
theorem nameParts_fourBytesText (n : Nat) :
    nameParts (fourBytesText n) = (bytesOf n).map Numeral.decimal := by
  have hsegments : segments '.' (fourBytesText n) = (bytesOf n).map Numeral.decimal := by
    refine segments_joined '.' _ (by simp) fun s hs => ?_
    rcases List.mem_map.mp hs with ⟨b, -, rfl⟩
    exact not_mem_decimal '.' b (by decide)
  have hlast : ((bytesOf n).map Numeral.decimal).getLast? = some (Numeral.decimal (n % 256)) := rfl
  rw [nameParts, hsegments]
  refine if_neg ?_
  rw [hlast, Option.some.injEq]
  exact Numeral.decimal_ne_nil _

theorem endsInNumber_fourBytesText (n : Nat) : endsInNumber (fourBytesText n) = true := by
  have hlast : (nameParts (fourBytesText n)).getLast? = some (Numeral.decimal (n % 256)) := by
    rw [nameParts_fourBytesText]
    rfl
  unfold endsInNumber
  split
  · next hnone => cases hlast.symm.trans hnone
  · next hnil => exact absurd (Option.some.inj (hlast.symm.trans hnil)) (Numeral.decimal_ne_nil _)
  · next last _ hsome =>
      rw [← Option.some.inj (hlast.symm.trans hsome), Bool.or_eq_true]
      exact Or.inl (List.all_eq_true.mpr (Numeral.isDigit_of_mem_decimal _))

/-- The text of an address of four bytes is read as an address with the same text. -/
theorem fourBytes?_fourBytesText (n : Nat) :
    ∃ m, fourBytes? (fourBytesText n) = some m ∧ fourBytesText m = fourBytesText n := by
  have hparts : (nameParts (fourBytesText n)).mapM part? = some (bytesOf n) := by
    rw [nameParts_fourBytesText]
    rw [mapM_eq_some_iff, List.map_map]
    refine List.map_congr_left fun b hb => part?_decimal b ?_
    simp only [bytesOf, List.mem_cons, List.not_mem_nil, or_false] at hb
    rcases hb with rfl | rfl | rfl | rfl <;> exact Nat.mod_lt _ (by decide)
  have hread : fourBytes? (fourBytesText n) = some (n % 256 + n / 16777216 % 256 * 16777216 +
      n / 65536 % 256 * 65536 + n / 256 % 256 * 256) := by
    have hfits : (decide (3 < 3) || decide (256 ≤ n % 256) || (decide (255 < n / 16777216 % 256) ||
        (decide (255 < n / 65536 % 256) || (decide (255 < n / 256 % 256) || false)))) = false := by
      simp only [Bool.or_eq_false_iff, decide_eq_false_iff_not, and_true]
      omega
    rw [fourBytes?, hparts]
    exact if_neg (by rw [Bool.not_eq_true]; exact hfits)
  refine ⟨_, hread, ?_⟩
  -- What does not fit into four bytes is not in the text, and is not read back either.
  have hbytes : ∀ m, m = n % 4294967296 → bytesOf m = bytesOf n := by
    intro m hm
    simp only [bytesOf, List.cons.injEq, and_true]
    omega
  have htext : ∀ m, fourBytesText m = joined '.' ((bytesOf m).map Numeral.decimal) := fun _ => rfl
  rw [htext, htext, hbytes _ (by omega)]

/-! ### Numbers in base 16 -/

/-- Numbers are written with few characters. -/
theorem mem_hexDigits (n : Nat) : ∀ c ∈ hexDigits n, c ∈ "0123456789abcdef".toList := by
  have hdigit : ∀ n < 16, (hexDigit n).toLower ∈ "0123456789abcdef".toList := by
    decide +kernel
  induction n using hexDigits.induct with
  | case1 n h =>
      rw [hexDigits, if_pos h, List.map_singleton, List.forall_mem_singleton]
      exact hdigit n h
  | case2 n h ih =>
      rw [hexDigits, if_neg h, List.map_singleton, List.forall_mem_append,
        List.forall_mem_singleton]
      exact ⟨ih, hdigit _ (Nat.mod_lt _ (by decide))⟩

theorem not_mem_hexDigits (sign : Char) (n : Nat) (h : sign ∉ "0123456789abcdef".toList) :
    sign ∉ hexDigits n :=
  fun hmem => h (mem_hexDigits n sign hmem)

theorem hexDigits_ne_nil (n : Nat) : hexDigits n ≠ [] := by
  rw [hexDigits]
  by_cases h : n < 16
  · rw [if_pos h]
    exact List.cons_ne_nil _ _
  · rw [if_neg h]
    exact List.append_ne_nil_of_right_ne_nil _ (List.cons_ne_nil _ _)

theorem length_hexDigits_le (k n : Nat) (h : n < 16 ^ (k + 1)) :
    (hexDigits n).length ≤ k + 1 := by
  induction k generalizing n with
  | zero =>
      rw [zero_add, pow_one] at h
      rw [hexDigits, if_pos h]
      exact Nat.le_refl 1
  | succ k ih =>
      rw [hexDigits]
      by_cases hn : n < 16
      · rw [if_pos hn]
        exact Nat.le_add_left 1 (k + 1)
      · have hfront := ih (n / 16) (Nat.div_lt_of_lt_mul (by rwa [Nat.pow_succ, Nat.mul_comm] at h))
        rw [if_neg hn, List.length_append, List.length_map]
        exact Nat.add_le_add_right hfront 1

/-- The digits of a number read back as that number. -/
theorem valueIn?_hexDigits (n : Nat) : Numeral.valueIn? 16 (hexDigits n) = some n := by
  have hdigit : ∀ n < 16, Numeral.digitIn? 16 (hexDigit n).toLower = some n := by
    decide +kernel
  -- The front is written first, so one more digit multiplies what was read by the base.
  have hread : ∃ ds, (hexDigits n).mapM (Numeral.digitIn? 16) = some ds ∧
      ds.foldl (fun n d => 16 * n + d) 0 = n := by
    induction n using hexDigits.induct with
    | case1 n h =>
        refine ⟨[n], ?_, by simp⟩
        rw [hexDigits, if_pos h, List.map_singleton, List.mapM_cons, hdigit n h]
        rfl
    | case2 n h ih =>
        rcases ih with ⟨ds, hds, hvalue⟩
        refine ⟨ds ++ [n % 16], ?_, ?_⟩
        · rw [hexDigits, if_neg h, List.mapM_append, hds, List.map_singleton, List.mapM_cons,
            hdigit _ (Nat.mod_lt _ (by decide))]
          rfl
        · rw [List.foldl_append, hvalue]
          exact Nat.div_add_mod n 16
  rcases hread with ⟨ds, hds, hvalue⟩
  have hne : (hexDigits n).isEmpty = false := List.isEmpty_eq_false_iff.mpr (hexDigits_ne_nil n)
  rw [Numeral.valueIn?, hne, hds, Option.map_some, hvalue]
  rfl

/-- A number below 65536 is read back from its digits. -/
theorem group?_hexDigits (n : Nat) (h : n < 65536) : group? (hexDigits n) = some n := by
  have hlength := length_hexDigits_le 3 n h
  rw [group?, if_neg (by omega), valueIn?_hexDigits]

theorem group?_lt (cs : List Char) (n : Nat) (h : group? cs = some n) : n < 65536 := by
  rw [group?] at h
  split at h
  · cases h
  · calc n < 16 ^ cs.length := Numeral.valueIn?_lt 16 cs n h
      _ ≤ 16 ^ 4 := Nat.pow_le_pow_right (by decide) (by omega)

/-! ### Addresses of eight numbers -/

/-- Numbers with a colon between each two. -/
def numbersText (ns : List Nat) : List Char :=
  joined ':' (ns.map hexDigits)

theorem segments_numbersText (ns : List Nat) (hne : ns ≠ []) :
    segments ':' (numbersText ns) = ns.map hexDigits := by
  refine segments_joined ':' _ (fun h => hne (List.map_eq_nil_iff.mp h)) fun s hs => ?_
  rcases List.mem_map.mp hs with ⟨n, -, rfl⟩
  exact not_mem_hexDigits ':' n (by decide)

/-- Numbers are read back from their text. -/
theorem groups?_numbersText (atEnd : Bool) (ns : List Nat) (h : ∀ n ∈ ns, n < 65536) :
    groups? atEnd (numbersText ns) = some ns := by
  by_cases hne : ns = []
  · rw [hne]
    rfl
  have hsegments := segments_numbersText ns hne
  have hempty : (numbersText ns).isEmpty = false := by
    rw [List.isEmpty_eq_false_iff]
    intro hnil
    rw [hnil] at hsegments
    rcases List.map_eq_cons_iff.mp hsegments.symm with ⟨n, -, -, hn, -⟩
    exact hexDigits_ne_nil n hn
  -- No number has a point, so the last two are not written as four bytes.
  have hpoint : '.' ∉ (ns.map hexDigits).getLast?.getD [] := by
    cases hlast : (ns.map hexDigits).getLast? with
    | none => exact List.not_mem_nil
    | some last =>
        rcases List.mem_map.mp (List.mem_of_getLast? hlast) with ⟨n, -, rfl⟩
        exact not_mem_hexDigits '.' n (by decide)
  have hread : (ns.map hexDigits).mapM group? = some ns := by
    rw [mapM_eq_some_iff, List.map_map]
    exact List.map_congr_left fun n hn => group?_hexDigits n (h n hn)
  have hcontains : ((ns.map hexDigits).getLast?.getD []).contains '.' = false := by
    rw [← Bool.not_eq_true, List.contains_iff_mem]
    exact hpoint
  rw [groups?, hempty, hsegments]
  simp only [hcontains, Bool.and_false, Bool.false_eq_true, if_false]
  exact hread

/-- No two colons in a row end in a word without colons. -/
theorem splitDouble_word (word cs : List Char) (h : ':' ∉ word) :
    splitDouble (word ++ cs)
      = (splitDouble cs).map fun parts => (word ++ parts.1, parts.2) := by
  induction word with
  | nil => exact Option.map_id'.symm
  | cons c word ih =>
      rw [List.mem_cons, not_or] at h
      have hcons : splitDouble (c :: (word ++ cs))
          = (splitDouble (word ++ cs)).map fun parts => (c :: parts.1, parts.2) := by
        rw [splitDouble]
        exact fun rest hc => absurd hc.symm h.1
      rw [List.cons_append, hcons, ih h.2, Option.map_map]
      rfl

/-- A single colon between words. -/
theorem splitDouble_colon (c : Char) (cs : List Char) (h : c ≠ ':') :
    splitDouble (':' :: c :: cs)
      = (splitDouble (c :: cs)).map fun parts => (':' :: parts.1, parts.2) := by
  rw [splitDouble]
  exact fun rest _ hrest => h (List.cons.inj hrest).1

/-- Words with a colon between each two have no two colons in a row, so those that follow are the
    first. -/
theorem splitDouble_joined (words : List (List Char)) (cs : List Char)
    (h : ∀ w ∈ words, w ≠ [] ∧ ':' ∉ w) :
    splitDouble (joined ':' words ++ cs)
      = (splitDouble cs).map fun parts => (joined ':' words ++ parts.1, parts.2) := by
  induction words with
  | nil => exact splitDouble_word [] cs List.not_mem_nil
  | cons w words ih =>
      rw [List.forall_mem_cons] at h
      cases words with
      | nil =>
          have hsingle : joined ':' [w] = w := List.intercalate_singleton
          rw [hsingle]
          exact splitDouble_word w cs h.1.2
      | cons v words =>
          have hv := h.2 v List.mem_cons_self
          rcases List.exists_cons_of_ne_nil hv.1 with ⟨c, v', rfl⟩
          rw [List.mem_cons, not_or] at hv
          -- The colon between two words stands alone, since the next word begins with something
          -- else.
          have hhead : ∃ more, joined ':' ((c :: v') :: words) = c :: more := by
            cases words with
            | nil => exact ⟨v', List.intercalate_singleton⟩
            | cons u words => exact ⟨_, List.intercalate_cons_cons⟩
          rcases hhead with ⟨more, hmore⟩
          rw [joined_cons_cons, List.append_assoc, splitDouble_word w _ h.1.2, hmore,
            List.cons_append, List.cons_append,
            splitDouble_colon c _ fun hc => hv.2.1 hc.symm, ← List.cons_append,
            ← hmore, ih h.2, Option.map_map, Option.map_map]
          simp only [Function.comp_def, List.append_assoc, List.cons_append]

/-- What is left out are zeros: the run that was found is never longer than the zeros where it
    starts. -/
theorem zeros_longestZeros (ns : List Nat) :
    (ns.drop (longestZeros ns).1).take (longestZeros ns).2
      = List.replicate (longestZeros ns).2 0 := by
  have hfits : (longestZeros ns).2 ≤ leadingZeros (ns.drop (longestZeros ns).1) := by
    -- The search for the longest run keeps that the best one so far is zeros throughout.
    let Fits (best : Nat × Nat) : Prop := best.2 ≤ leadingZeros (ns.drop best.1)
    refine List.foldlRecOn (motive := Fits) _ _ (Nat.zero_le _) fun best hbest i _ => ?_
    by_cases hlt : best.2 < leadingZeros (ns.drop i)
    · exact (if_pos hlt).symm ▸ Nat.le_refl _
    · exact (if_neg hlt).symm ▸ hbest
  generalize ns.drop (longestZeros ns).1 = xs at hfits ⊢
  generalize (longestZeros ns).2 = count at hfits ⊢
  have htake : xs.take count = (xs.takeWhile (· = 0)).take count := by
    rw [List.prefix_iff_eq_take.mp (List.takeWhile_prefix _), List.take_take]
    exact congrArg (xs.take ·) (Nat.min_eq_left hfits).symm
  rw [htake, List.eq_replicate_iff, List.length_take]
  refine ⟨Nat.min_eq_left hfits, fun n hn => ?_⟩
  exact of_decide_eq_true (List.all_eq_true.mp List.all_takeWhile n (List.mem_of_mem_take hn))

/-- An address of eight numbers without its brackets. -/
def innerText (ns : List Nat) : List Char :=
  let (start, count) := longestZeros ns
  if count < 2 then numbersText ns
  else numbersText (ns.take start) ++ [':', ':'] ++ numbersText (ns.drop (start + count))

/-- The characters of an address in brackets. -/
theorem mem_innerText (ns : List Nat) : ∀ c ∈ innerText ns, c ∈ ":0123456789abcdef".toList := by
  have hnumbers : ∀ ns, ∀ c ∈ numbersText ns, c ∈ ":0123456789abcdef".toList := by
    intro ns
    refine forall_mem_joined ':' _ _ List.mem_cons_self fun s hs c hc => ?_
    rcases List.mem_map.mp hs with ⟨n, -, rfl⟩
    exact List.mem_cons_of_mem ':' (mem_hexDigits n c hc)
  unfold innerText
  simp only
  split
  · exact hnumbers ns
  · rw [List.forall_mem_append, List.forall_mem_append]
    exact ⟨⟨hnumbers _, List.all_iff_forall_prop.mp (by decide)⟩, hnumbers _⟩

/-- No number is written by nothing, and none has a colon. -/
theorem words_hexDigits (ns : List Nat) : ∀ w ∈ ns.map hexDigits, w ≠ [] ∧ ':' ∉ w := by
  intro w hw
  rcases List.mem_map.mp hw with ⟨n, -, rfl⟩
  exact ⟨hexDigits_ne_nil n, not_mem_hexDigits ':' n (by decide)⟩

/-- Eight numbers are read back from their text. -/
theorem eightNumbers?_innerText (ns : List Nat) (hlength : ns.length = 8)
    (h : ∀ n ∈ ns, n < 65536) : eightNumbers? (innerText ns) = some ns := by
  have hzeros := zeros_longestZeros ns
  unfold innerText
  generalize longestZeros ns = run at hzeros ⊢
  rcases run with ⟨start, count⟩
  simp only at hzeros ⊢
  by_cases hcount : count < 2
  · have hnone : splitDouble (numbersText ns) = none := by
      have hsplit := splitDouble_joined (ns.map hexDigits) [] (words_hexDigits ns)
      rw [List.append_nil] at hsplit
      exact hsplit
    rw [if_pos hcount, eightNumbers?, hnone]
    simp only [groups?_numbersText true ns h, Option.filter_some, hlength, decide_true, if_true]
  · -- What stands before and after the colons is read as it was written.
    let front := ns.take start
    let back := ns.drop (start + count)
    have hsplit : splitDouble (numbersText front ++ [':', ':'] ++ numbersText back)
        = some (numbersText front, numbersText back) := by
      have hwords := splitDouble_joined (front.map hexDigits) (':' :: ':' :: numbersText back)
        (words_hexDigits front)
      rw [List.append_assoc]
      rw [splitDouble, Option.map_some, List.append_nil] at hwords
      exact hwords
    have hwhole : front ++ (List.replicate count 0 ++ back) = ns := by
      have hback : back = (ns.drop start).drop count := by
        rw [List.drop_drop]
      rw [hback, ← hzeros, List.take_append_drop, List.take_append_drop]
    have hcounts := congrArg List.length hwhole
    rw [List.length_append, List.length_append, List.length_replicate, hlength] at hcounts
    have hfront := groups?_numbersText false front fun n hn => h n (List.mem_of_mem_take hn)
    have hback := groups?_numbersText true back fun n hn => h n (List.mem_of_mem_drop hn)
    rw [if_neg hcount, eightNumbers?, hsplit]
    simp only [hfront, hback, Option.bind_eq_bind, Option.bind_some]
    have hleft : 8 - front.length - back.length = count := by omega
    rw [if_pos (by omega), hleft, List.append_assoc, hwhole]

theorem byte?_lt (cs : List Char) (n : Nat) (h : byte? cs = some n) : n < 256 := by
  rw [byte?] at h
  split at h
  · cases h
  · exact of_decide_eq_true (Option.filter_eq_some_iff.mp h).2

/-- Two numbers written as four bytes are small enough. -/
theorem bytePairs?_lt (cs : List Char) (ns : List Nat) (h : bytePairs? cs = some ns) :
    ∀ n ∈ ns, n < 65536 := by
  unfold bytePairs? at h
  split at h
  · next a b c d hbytes =>
      have hbound : ∀ x, some x ∈ (segments '.' cs).map byte? → x < 256 := by
        intro x hx
        rcases List.mem_map.mp hx with ⟨s, -, hs⟩
        exact byte?_lt s x hs
      rw [hbytes] at hbound
      have ha := hbound a (by simp)
      have hb := hbound b (by simp)
      have hc := hbound c (by simp)
      have hd := hbound d (by simp)
      rw [← Option.some.inj h, List.forall_mem_cons, List.forall_mem_singleton]
      omega
  · cases h

/-- Numbers between colons are small enough. -/
theorem groups?_lt (atEnd : Bool) (cs : List Char) (ns : List Nat)
    (h : groups? atEnd cs = some ns) : ∀ n ∈ ns, n < 65536 := by
  -- Groups are read alone or in front of an address of four bytes, and they are small in both.
  have hmap : ∀ (parts : List (List Char)) ns, parts.mapM group? = some ns →
      ∀ n ∈ ns, n < 65536 := by
    intro parts ns hparts n hn
    have hsome := List.mem_map_of_mem (f := some) hn
    rw [← (mapM_eq_some_iff group? parts ns).mp hparts] at hsome
    rcases List.mem_map.mp hsome with ⟨s, -, hs⟩
    exact group?_lt s n hs
  unfold groups? at h
  split at h
  · rw [← Option.some.inj h]
    exact fun n hn => absurd hn List.not_mem_nil
  · simp only at h
    split at h
    · rcases Option.bind_eq_some_iff.mp h with ⟨front, hfront, hrest⟩
      rcases Option.bind_eq_some_iff.mp hrest with ⟨back, hback, hboth⟩
      rw [← Option.some.inj hboth, List.forall_mem_append]
      exact ⟨hmap _ front hfront, bytePairs?_lt _ back hback⟩
    · exact hmap _ ns h

/-- What is read as an address are eight small numbers. -/
theorem bounds_of_eightNumbers? (cs : List Char) (ns : List Nat) (h : eightNumbers? cs = some ns) :
    ns.length = 8 ∧ ∀ n ∈ ns, n < 65536 := by
  unfold eightNumbers? at h
  split at h
  · rcases Option.filter_eq_some_iff.mp h with ⟨hgroups, hlength⟩
    exact ⟨of_decide_eq_true hlength, groups?_lt true cs ns hgroups⟩
  · next front back hsplit =>
      rcases Option.bind_eq_some_iff.mp h with ⟨a, ha, hrest⟩
      rcases Option.bind_eq_some_iff.mp hrest with ⟨b, hb, hwhole⟩
      split at hwhole
      · next hshort =>
          rw [← Option.some.inj hwhole, List.forall_mem_append, List.forall_mem_append,
            List.length_append, List.length_append, List.length_replicate]
          refine ⟨by omega, ⟨groups?_lt _ _ a ha, fun n hn => ?_⟩, groups?_lt _ _ b hb⟩
          rw [List.eq_of_mem_replicate hn]
          decide
      · cases hwhole

/-! ### Shapes -/

/-- A character that ends no host: no blank, and none of the signs that stand around a host. -/
def Inside (c : Char) : Prop :=
  0x20 < c.toNat ∧ c ∉ ['/', '\\', '?', '#', '@']

instance (c : Char) : Decidable (Inside c) :=
  inferInstanceAs (Decidable (_ ∧ _))

/-- What a host looks like. Its colons, if it has any, are in brackets. -/
structure Shaped (host : List Char) : Prop where
  inside : ∀ c ∈ host, Inside c
  colons : (∀ c ∈ host, c ∉ [':', '[', '|']) ∨
    ∃ inner, host = '[' :: (inner ++ [']']) ∧ ']' ∉ inner

/-! ### Hosts in brackets -/

/-- A host in brackets is the text of eight numbers, which is read as these. -/
theorem bracketed_spec (inner host : List Char) (h : bracketed inner = .ok host) :
    ∃ text, host = '[' :: text ∧ bracketed text = .ok host ∧ Shaped host := by
  unfold bracketed at h
  split at h
  · next rest hrest =>
      split at h
      · next ns hns =>
          rcases bounds_of_eightNumbers? _ ns hns with ⟨hlength, hbounds⟩
          have hhost : host = '[' :: (innerText ns ++ [']']) := (Except.ok.inj h).symm
          refine ⟨innerText ns ++ [']'], hhost, ?_, ?_⟩
          · have hreverse : (innerText ns ++ [']']).reverse = ']' :: (innerText ns).reverse := by
              rw [List.reverse_append]
              rfl
            rw [bracketed, hreverse]
            simp only [List.reverse_reverse, eightNumbers?_innerText ns hlength hbounds, hhost]
            rfl
          · -- The text of an address has few signs, and none of them ends a host.
            have hsigns : ∀ c ∈ ":0123456789abcdef".toList, Inside c ∧ c ≠ ']' :=
              List.all_iff_forall_prop.mp (by decide +kernel)
            refine ⟨?_, Or.inr ⟨innerText ns, hhost, fun hmem => ?_⟩⟩
            · rw [hhost, List.forall_mem_cons, List.forall_mem_append]
              exact ⟨by decide, fun c hc => (hsigns c (mem_innerText ns c hc)).1,
                List.forall_mem_singleton.mpr (by decide)⟩
            · exact (hsigns ']' (mem_innerText ns ']' hmem)).2 rfl
      · cases h
  · cases h

/-! ### Names and addresses of four bytes -/

/-- The characters of an address of four bytes. -/
theorem mem_fourBytesText (n : Nat) : ∀ c ∈ fourBytesText n, c.isDigit ∨ c = '.' := by
  refine forall_mem_joined '.' _ _ (Or.inr rfl) fun s hs c hc => Or.inl ?_
  rcases List.mem_map.mp hs with ⟨b, -, rfl⟩
  exact Numeral.isDigit_of_mem_decimal b c hc

/-- Digits and points may stand in a name. -/
theorem deniedInName_of_number (c : Char) (h : c.isDigit ∨ c = '.') : deniedInName c = false := by
  rcases h with h | rfl
  · have hcode := (Numeral.isDigit_iff c).mp h
    exact forall_ascii (fun c => c.isDigit → deniedInName c = false) (by decide +kernel) c
      (by omega) h
  · decide

/-- What may stand in a name means nothing in a URL. -/
theorem inside_of_name (c : Char) (h : deniedInName c = false) :
    Inside c ∧ c ∉ [':', '[', '|'] ∧ c ≠ '%' := by
  simp only [deniedInName, Bool.or_eq_false_iff, decide_eq_false_iff_not, List.contains_eq_mem,
    List.mem_cons, List.not_mem_nil, or_false, not_or] at h
  simp only [Inside, List.mem_cons, List.not_mem_nil, or_false, not_or]
  exact ⟨⟨by omega, by tauto⟩, by tauto, by tauto⟩

/-- What a host of a common scheme is, if it is not in brackets. -/
structure Named (name : List Char) : Prop where
  ofName : ofName name = .ok name
  ne_nil : name ≠ []
  plain : ∀ c ∈ name, deniedInName c = false

theorem named_fourBytesText (n : Nat) : Named (fourBytesText n) := by
  have hplain : ∀ c ∈ fourBytesText n, deniedInName c = false := fun c hc =>
    deniedInName_of_number c (mem_fourBytesText n c hc)
  have hne : fourBytesText n ≠ [] := by
    intro hnil
    have hnumber := endsInNumber_fourBytesText n
    rw [hnil] at hnumber
    cases hnumber
  rcases fourBytes?_fourBytesText n with ⟨m, hread, htext⟩
  refine ⟨?_, hne, hplain⟩
  rw [ofName, List.isEmpty_eq_false_iff.mpr hne, List.any_eq_false.mpr fun c hc => by
    rw [hplain c hc]; decide, endsInNumber_fourBytesText, hread]
  simp only [Bool.false_eq_true, if_false, if_true, htext]

section Names

variable [HostLibrary]

/-- What a name in letters of ASCII stands for is kept. -/
theorem named_of_ofName (name host : List Char) (hascii : HostLibrary.ascii? name = some name)
    (h : ofName name = .ok host) : HostLibrary.ascii? host = some host ∧ Named host := by
  -- The host is the name itself unless that is a number, so what was read of the one is known of
  -- the other.
  have hself := h
  rw [ofName] at h
  split at h
  · cases h
  next hempty =>
  split at h
  · cases h
  next hdenied =>
  split at h
  · split at h
    · next n _ =>
        rw [← Except.ok.inj h]
        exact ⟨HostLibrary.ascii?_numbers _ (mem_fourBytesText n), named_fourBytesText n⟩
    · cases h
  · have hname : name = host := Except.ok.inj h
    rw [hname] at hascii hself hempty hdenied
    refine ⟨hascii, hself, fun hnil => hempty (List.isEmpty_iff.mpr hnil), fun c hc => ?_⟩
    rw [Bool.not_eq_true, List.any_eq_false] at hdenied
    exact Bool.not_eq_true _ ▸ hdenied c hc

/-- A name that is kept in letters of ASCII is read as what it stands for. -/
theorem read_of_named (name : List Char) (hascii : HostLibrary.ascii? name = some name)
    (h : Named name) : read name = .ok name := by
  have hplain := fun c hc => inside_of_name c (h.plain c hc)
  -- No percent sign is left, so the library is asked about the name as it is.
  have hbytes : unescape 0 (Utf8.encode name) = Utf8.encode name :=
    unescape_of_not_mem _ fun hmem =>
      (hplain '%' (Utf8.mem_of_mem_encode 0x25 name (by decide) hmem)).2.2 rfl
  unfold read
  split
  · exact absurd (hplain '[' List.mem_cons_self).2.1 (by decide)
  · rw [hbytes, Utf8.decode?_encode, Option.bind_some, hascii]
    exact h.ofName

/-- A host of a common scheme that was read is read as itself, and is not empty. -/
theorem read_spec (cs host : List Char) (h : read cs = .ok host) :
    read host = .ok host ∧ host ≠ [] ∧ Shaped host := by
  unfold read at h
  split at h
  · next inner =>
      rcases bracketed_spec inner host h with ⟨text, rfl, hread, hshaped⟩
      exact ⟨hread, List.cons_ne_nil _ _, hshaped⟩
  · split at h
    · cases h
    · next name hname =>
        rcases Option.bind_eq_some_iff.mp hname with ⟨decoded, -, hdecoded⟩
        rcases named_of_ofName name host (HostLibrary.ascii?_ascii? decoded name hdecoded) h with
          ⟨hascii, hnamed⟩
        have hplain := fun c hc => inside_of_name c (hnamed.plain c hc)
        exact ⟨read_of_named host hascii hnamed, hnamed.ne_nil, fun c hc => (hplain c hc).1,
          Or.inl fun c hc => (hplain c hc).2.1⟩

end Names

/-! ### Hosts of other schemes -/

/-- What may stand in a host of another scheme, once control characters are written by their bytes,
    means nothing in a URL. -/
theorem inside_of_opaque (c : Char) (h : deniedInOpaque c = false)
    (hcontrol : Percent.isControl c = false) : Inside c ∧ c ∉ [':', '[', '|'] := by
  have hblank : c.toNat = 0x20 → c = ' ' := fun hc => Char.toNat_inj.mp hc
  simp only [deniedInOpaque, List.contains_eq_mem, decide_eq_false_iff_not, List.mem_cons,
    List.not_mem_nil, or_false, not_or] at h
  simp only [Percent.isControl, Bool.or_eq_false_iff, decide_eq_false_iff_not] at hcontrol
  have hne : c.toNat ≠ 0x20 := fun hc => by tauto
  simp only [Inside, List.mem_cons, List.not_mem_nil, or_false, not_or]
  exact ⟨⟨by omega, by tauto⟩, by tauto⟩

/-- A host of another scheme that was read is read as itself. -/
theorem readOpaque_spec (cs host : List Char) (h : readOpaque cs = .ok host) :
    readOpaque host = .ok host ∧ Shaped host := by
  unfold readOpaque at h
  split at h
  · next inner =>
      rcases bracketed_spec inner host h with ⟨text, rfl, hread, hshaped⟩
      exact ⟨hread, hshaped⟩
  · next hbracket =>
      split at h
      · cases h
      next hdenied =>
      rw [Bool.not_eq_true, List.any_eq_false] at hdenied
      rw [← Except.ok.inj h]
      have hplain : Percent.Plain Percent.nowhere (Percent.encode Percent.nowhere cs) :=
        Percent.plain_encode _ cs Percent.plain_signs.1
      -- What bytes are written with is allowed, and all else was in the host before.
      have hallowed : ∀ c ∈ Percent.encode Percent.nowhere cs, deniedInOpaque c = false := by
        have hsigns : ∀ c ∈ Percent.signs, deniedInOpaque c = false :=
          List.all_iff_forall_prop.mp (by decide +kernel)
        intro c hc
        rcases Percent.mem_signs_or_of_mem_encode _ cs c hc with hsign | ⟨hmem, -⟩
        · exact hsigns c hsign
        · exact Bool.not_eq_true _ ▸ hdenied c hmem
      have hnone : (Percent.encode Percent.nowhere cs).any deniedInOpaque = false :=
        List.any_eq_false.mpr fun c hc => Bool.not_eq_true _ ▸ hallowed c hc
      have hinside := fun c hc => inside_of_opaque c (hallowed c hc) (hplain c hc).1
      refine ⟨?_, fun c hc => (hinside c hc).1, Or.inl fun c hc => (hinside c hc).2⟩
      unfold readOpaque
      split
      · next inner hinner =>
          exact absurd (hinside '[' (hinner ▸ List.mem_cons_self)).2 (by decide)
      · rw [hnone, Percent.encode_encode _ cs Percent.plain_signs.1]
        rfl

end Host

end RunReport
