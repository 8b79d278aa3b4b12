import RunReport.Text.Blank
import RunReport.Text.Numeral

/-!
# Numerals Read Back

The decimal digits of a number write that number.

An id is put into a link as a numeral and read out of a query as one, by code that knows nothing of
the code that wrote it: the reader cuts off blanks, takes a plus sign, adds up digits and compares
the sum with a limit. `word?_trim_text` says that none of this gets in the way of an id of 64 bits.
What carries it is that a numeral is made of digits only, `isDigit_of_mem_decimal`, which is also
why a numeral in a page is never taken for anything else.

## Theorems

* `toNat_ofNat_of_valid`, `digit_toNat`: The code of the character of a digit.
* `isDigit_iff`: The codes of digits.
* `digit_isDigit`, `valueOfDigit_digit`: The character of a digit is a digit, and the one that was
  written.
* `decimal_ne_nil`, `isDigit_of_mem_decimal`: A numeral is one or more digits.
* `accumulate_decimal`: Adding up the digits of a number gives the number.
* `accumulate_zeros`, `isDigit_of_mem_zeros`: Zeros in front are digits that do not count.
* `length_decimal_of_lt`, `head?_decimal`: The digits of small numbers, and the first digit.
* `toList_padded`, `accumulate_padded`, `isDigit_of_mem_padded`, `length_padded_two`: Numerals with
  zeros in front.
* `valueOf?_decimal`: The digits of a number read back as that number.
* `trim_decimal`, `withoutPlus_decimal`: A numeral has no blanks and no plus sign.
* `word?_trim_text`: An id that is written as a numeral reads back as that id.
-/

namespace RunReport

namespace Numeral

/-- A code that a character can have is the code of that character. -/
theorem toNat_ofNat_of_valid (n : Nat) (h : n.isValidChar) : (Char.ofNat n).toNat = n := by
  rw [Char.ofNat, dif_pos h]
  rfl

theorem digit_toNat (n : Nat) : (digit n).toNat = 48 + n % 10 := by
  rw [digit, show '0'.toNat = 48 from rfl]
  refine toNat_ofNat_of_valid _ ?_
  unfold Nat.isValidChar
  omega

/-- The digits are the characters from 48 to 57. -/
theorem isDigit_iff (c : Char) : c.isDigit ↔ 48 ≤ c.toNat ∧ c.toNat ≤ 57 :=
  Char.isDigit_iff_toNat

/-- The character of a digit is a digit. -/
theorem digit_isDigit (n : Nat) : (digit n).isDigit := by
  have hcode := digit_toNat n
  rw [isDigit_iff]
  omega

/-- The value of the character of a digit is that digit. -/
theorem valueOfDigit_digit (n : Nat) : valueOfDigit (digit n) = n % 10 := by
  rw [valueOfDigit, digit_toNat, show '0'.toNat = 48 from rfl]
  omega

theorem decimal_ne_nil (n : Nat) : decimal n ≠ [] := by
  rw [decimal]
  by_cases h : n < 10
  · rw [if_pos h]
    exact List.cons_ne_nil _ _
  · rw [if_neg h]
    exact List.append_ne_nil_of_right_ne_nil _ (List.cons_ne_nil _ _)

/-- A numeral is made of digits. -/
theorem isDigit_of_mem_decimal (n : Nat) : ∀ c ∈ decimal n, c.isDigit := by
  induction n using decimal.induct with
  | case1 n h =>
      intro c hc
      rw [decimal, if_pos h, List.mem_singleton] at hc
      rw [hc]
      exact digit_isDigit n
  | case2 n h ih =>
      intro c hc
      rw [decimal, if_neg h, List.mem_append, List.mem_singleton] at hc
      rcases hc with hc | hc
      · exact ih c hc
      · rw [hc]
        exact digit_isDigit n

/-- Adding up the digits of a number gives the number: the last digit comes to ten times the number
    that the others write. -/
theorem accumulate_decimal (n : Nat) : accumulate 0 (decimal n) = n := by
  induction n using decimal.induct with
  | case1 n h =>
      rw [decimal, if_pos h]
      simp only [accumulate, List.foldl_cons, List.foldl_nil, valueOfDigit_digit]
      omega
  | case2 n h ih =>
      rw [decimal, if_neg h, accumulate, List.foldl_append]
      change 10 * accumulate 0 (decimal (n / 10)) + valueOfDigit (digit n) = n
      rw [ih, valueOfDigit_digit]
      omega

/-- The digits of a number read back as that number. -/
theorem valueOf?_decimal (n : Nat) : valueOf? (decimal n) = some n := by
  have hall : (decimal n).all Char.isDigit := List.all_eq_true.mpr (isDigit_of_mem_decimal n)
  have hne : (decimal n).isEmpty = false := List.isEmpty_eq_false_iff.mpr (decimal_ne_nil n)
  rw [valueOf?, hall, hne, accumulate_decimal]
  rfl

/-- Zeros in front do not count. -/
theorem accumulate_zeros (zeros : Nat) (cs : List Char) :
    accumulate 0 (List.replicate zeros '0' ++ cs) = accumulate 0 cs := by
  induction zeros with
  | zero => rfl
  | succ k ih => exact ih

theorem isDigit_of_mem_zeros (zeros n : Nat) :
    ∀ c ∈ List.replicate zeros '0' ++ decimal n, c.isDigit := by
  intro c hc
  rcases List.mem_append.mp hc with hc | hc
  · rw [List.eq_of_mem_replicate hc]
    rfl
  · exact isDigit_of_mem_decimal n c hc

/-- Numbers below a hundred have one digit or two. -/
theorem length_decimal_of_lt (n : Nat) (h : n < 100) :
    (decimal n).length = if n < 10 then 1 else 2 := by
  by_cases hn : n < 10
  · rw [decimal, if_pos hn, if_pos hn]
    rfl
  · have hten : n / 10 < 10 := by omega
    rw [decimal, if_neg hn, if_neg hn, decimal, if_pos hten]
    rfl

/-- A number that is not zero does not begin with a zero. -/
theorem head?_decimal (n : Nat) (h : n ≠ 0) : (decimal n).head? ≠ some '0' := by
  induction n using decimal.induct with
  | case1 n hn =>
      rw [decimal, if_pos hn, List.head?_singleton, Ne, Option.some.injEq]
      intro hzero
      have hcode := digit_toNat n
      rw [hzero, show '0'.toNat = 48 from rfl] at hcode
      omega
  | case2 n hn ih =>
      have hfront : n / 10 ≠ 0 := by omega
      rcases List.exists_cons_of_ne_nil (decimal_ne_nil (n / 10)) with ⟨c, cs, hcons⟩
      rw [decimal, if_neg hn, hcons, List.cons_append, List.head?_cons]
      rw [hcons, List.head?_cons] at ih
      exact ih hfront

theorem toList_padded (width n : Nat) :
    (padded width n).toList
      = List.replicate (width - (decimal n).length) '0' ++ decimal n := by
  rw [padded, String.toList_ofList]

/-- Zeros in front do not change the number. -/
theorem accumulate_padded (width n : Nat) : accumulate 0 (padded width n).toList = n := by
  rw [toList_padded, accumulate_zeros, accumulate_decimal]

theorem isDigit_of_mem_padded (width n : Nat) : ∀ c ∈ (padded width n).toList, c.isDigit := by
  rw [toList_padded]
  exact isDigit_of_mem_zeros _ n

theorem length_padded_two (n : Nat) (h : n < 100) : (padded 2 n).toList.length = 2 := by
  rw [toList_padded, List.length_append, List.length_replicate, length_decimal_of_lt n h]
  split <;> omega

/-- No digit is a blank. -/
theorem isBlank_of_isDigit (c : Char) (h : c.isDigit) : Text.isBlank c = false := by
  rw [isDigit_iff] at h
  unfold Text.isBlank
  simp only [Bool.or_eq_false_iff, Bool.and_eq_false_iff, decide_eq_false_iff_not,
    beq_eq_false_iff_ne]
  omega

/-- A numeral has no blanks. -/
theorem trim_decimal (n : Nat) : Text.trim (decimal n) = decimal n := by
  have hstays : ∀ cs : List Char, (∀ c ∈ cs, c.isDigit) → cs.dropWhile Text.isBlank = cs := by
    intro cs hcs
    cases cs with
    | nil => rfl
    | cons c cs =>
        rw [List.dropWhile_cons, isBlank_of_isDigit c (hcs c List.mem_cons_self)]
        rfl
  have hdigits := isDigit_of_mem_decimal n
  rw [Text.trim, Text.trimStart, hstays _ hdigits, Text.trimEnd,
    hstays _ fun c hc => hdigits c (List.mem_reverse.mp hc), List.reverse_reverse]

/-- A numeral has no plus sign. -/
theorem withoutPlus_decimal (n : Nat) : withoutPlus (decimal n) = decimal n := by
  unfold withoutPlus
  split
  · next cs heq =>
      have hplus := isDigit_of_mem_decimal n '+' (heq ▸ List.mem_cons_self)
      exact absurd hplus (by decide)
  · rfl

/-- An id that is written as a numeral reads back as that id, whatever its size. -/
theorem word?_trim_text (id : UInt64) : word? (Text.trim (text id.toNat).toList) = some id := by
  have hlt : id.toNat < Word.count := id.toNat_lt
  rw [text, String.toList_ofList, trim_decimal, word?, natural?, withoutPlus_decimal,
    valueOf?_decimal, Option.filter_some, if_pos (decide_eq_true hlt), Option.map_some,
    UInt64.ofNat_toNat]

end Numeral

end RunReport
