import Mathlib.Data.Bool.AllAny
import Mathlib.Data.List.TakeWhile

/-!
# Steps of Readers

What readers of texts have in common: they read up to a sign, read every element of a list, and go
on only if the step before went well.

## Theorems

* `takeWhile_stop`, `dropWhile_stop`: Reading up to a sign does not go beyond it.
* `takeWhile_ne`, `takeWhile_ne_self`: Reading up to the first of a sign.
* `mapM_eq_some_iff`: A list is read if each of its elements is.
* `ok_of_bind`, `ok_of_map`, `ok_of_mapError`: What goes well in the end went well before.
-/

namespace RunReport

section Stretch

variable (p : Char → Bool) (as bs : List Char) (sign : Char)

/-- A stretch that ends before a sign is the same when the sign follows the text. -/
theorem takeWhile_stop (h : p sign = false) :
    (as ++ sign :: bs).takeWhile p = as.takeWhile p := by
  rw [List.takeWhile_append, List.takeWhile_cons_of_neg (by rw [h]; decide), List.append_nil]
  split
  · next hall => exact ((List.takeWhile_prefix p).eq_of_length hall).symm
  · rfl

theorem dropWhile_stop (h : p sign = false) :
    (as ++ sign :: bs).dropWhile p = as.dropWhile p ++ sign :: bs := by
  rw [List.dropWhile_append, List.dropWhile_cons_of_neg (by rw [h]; decide)]
  split
  · next hall => rw [List.isEmpty_iff.mp hall, List.nil_append]
  · rfl

theorem takeWhile_ne_self (h : sign ∉ as) : as.takeWhile (· ≠ sign) = as :=
  List.takeWhile_eq_self_iff.mpr fun _ ha => decide_eq_true fun heq => h (heq ▸ ha)

/-- A text up to a sign that stands nowhere before is what comes before that sign. -/
theorem takeWhile_ne (h : sign ∉ as) : (as ++ sign :: bs).takeWhile (· ≠ sign) = as := by
  rw [takeWhile_stop (· ≠ sign) as bs sign (by simp), takeWhile_ne_self as sign h]

end Stretch

/-- A list is read if each of its elements is. -/
theorem mapM_eq_some_iff {α β : Type} (f : α → Option β) (xs : List α) (ys : List β) :
    xs.mapM f = some ys ↔ xs.map f = ys.map some := by
  induction xs generalizing ys with
  | nil =>
      rw [List.mapM_nil, List.map_nil, eq_comm (a := []), List.map_eq_nil_iff]
      exact ⟨fun h => (Option.some.inj h).symm, fun h => h ▸ rfl⟩
  | cons x xs ih =>
      rw [List.mapM_cons, List.map_cons]
      constructor
      · intro h
        rcases Option.bind_eq_some_iff.mp h with ⟨y, hy, hrest⟩
        rcases Option.bind_eq_some_iff.mp hrest with ⟨rest, hmap, hboth⟩
        rw [← Option.some.inj hboth, List.map_cons, hy, (ih rest).mp hmap]
      · intro h
        rcases List.map_eq_cons_iff.mp h.symm with ⟨y, rest, rfl, hy, hmap⟩
        rw [← hy, (ih rest).mpr hmap.symm]
        rfl

/-- What goes well in the end went well before. -/
theorem ok_of_bind {ε α β : Type} {x : Except ε α} {f : α → Except ε β} {y : β}
    (h : (x >>= f) = .ok y) : ∃ a, x = .ok a ∧ f a = .ok y := by
  cases x with
  | error e => cases h
  | ok a => exact ⟨a, rfl, h⟩

theorem ok_of_map {ε α β : Type} {x : Except ε α} {f : α → β} {y : β} (h : x.map f = .ok y) :
    ∃ a, x = .ok a ∧ f a = y := by
  cases x with
  | error e => cases h
  | ok a => exact ⟨a, rfl, Except.ok.inj h⟩

theorem ok_of_mapError {ε ε' α : Type} {x : Except ε α} {f : ε → ε'} {y : α}
    (h : x.mapError f = .ok y) : x = .ok y := by
  cases x with
  | error e => cases h
  | ok a => exact congrArg Except.ok (Except.ok.inj h)

end RunReport
