import Mathlib.Data.List.DropRight
import Mathlib.Data.List.Forall2
import RunReport.Proofs.JsonTail

/-!
# The Texts of Arrays

A text in brackets is the array of the values whose texts stand between the commas.

Whether a document can be read depends on the text around it in two ways. It has to know where it
ends, which is a matter of the tail, and it has to be read at all, which is a matter of the bound on
the steps of the reader: the bound is that of the whole text and shrinks with each item. So a
document that has a value is shown to be read with any tail and with any larger bound (`Begins`).
The induction is on the bound, for documents, items and members together. It also shows that what is
read is the very document of the value, so that nothing of the text is left in it.

What may be nested in an array is one level less than what may stand by itself, and this is the only
reason why an array of values may be refused (`read_bracketed`).

## Main definitions

* `depth`: How deep arrays and objects are nested in a value.
* `Doc.KeepsValue`: A reading that gives the document of a value, whatever the tail.
* `Doc.Begins`: Bytes begin with the document of a value, whatever follows.
* `Doc.bracketed`: The text of an array, from the texts of its items.

## Theorems

* `Doc.readDoc_leaf`: What is neither an array nor an object is read by itself.
* `Doc.keepsDocs_succ`, `Doc.keepsItems_succ`, `Doc.keepsMembers_succ`: A larger bound.
* `Doc.keeps_all`: What has a value stays what it is with a tail.
* `Doc.read_of_ok`: A text that has a value is read as the document of the value.
* `Doc.strict_ofJson`: The document of a value has the value if it is not nested too deep.
* `Doc.read_bracketed`: The value of a text in brackets.
-/

namespace RunReport

namespace Json

mutual

/-- How deep arrays and objects are nested in a value. -/
def depth : Json → Nat
  | array items => depthItems items + 1
  | object members => depthMembers members + 1
  | _ => 0

/-- How deep they are nested in values. -/
def depthItems : List Json → Nat
  | [] => 0
  | v :: vs => max (depth v) (depthItems vs)

/-- How deep they are nested in the values of members. -/
def depthMembers : List (String × Json) → Nat
  | [] => 0
  | (_, v) :: ms => max (depth v) (depthMembers ms)

end

namespace Doc

/-! ### Blanks -/

/-- Where something else follows blanks, a tail comes after it. -/
theorem skipBlanks_append_cons {bs rest : List UInt8} {b : UInt8} (h : skipBlanks bs = b :: rest)
    (tail : List UInt8) : skipBlanks (bs ++ tail) = b :: (rest ++ tail) := by
  unfold skipBlanks at h ⊢
  rw [List.dropWhile_append, h]
  rfl

/-- Where there are only blanks, the tail follows them. -/
theorem skipBlanks_append {bs : List UInt8} (h : skipBlanks bs = []) (tail : List UInt8) :
    skipBlanks (bs ++ tail) = skipBlanks tail := by
  unfold skipBlanks at h ⊢
  rw [List.dropWhile_append, h]
  rfl

/-- Blanks before a document make no difference. -/
theorem readDoc_skipBlanks (n : Nat) (bs : List UInt8) :
    readDoc n (skipBlanks bs) = readDoc n bs := by
  cases n with
  | zero => rfl
  | succ n =>
      have hskip : skipBlanks (skipBlanks bs) = skipBlanks bs := List.dropWhile_idempotent _ _
      rw [readDoc, readDoc, hskip]

/-- Neither do they before the first item of an array. -/
theorem readItems_skipBlanks (n : Nat) (bs : List UInt8) :
    readItems n (skipBlanks bs) = readItems n bs := by
  cases n with
  | zero => rfl
  | succ n => rw [readItems, readItems, readDoc_skipBlanks]

/-! ### Documents without parts -/

/-- A reading that gives the document of a value, if it gives a value, whatever the tail. -/
def KeepsValue (read : List UInt8 → Reading) : Prop :=
  ∀ bs room v, (read bs).1.strict room = .ok v →
    ∃ rest, ∀ tail, Ends tail → read (bs ++ tail) = (ofJson v, some (rest ++ tail))

theorem keepsValue_word (ws : List UInt8) (u : Json)
    (hu : ∀ room, (ofJson u).strict room = .ok u) : KeepsValue (word (ofJson u) ws) := by
  intro bs room v h
  induction ws generalizing bs with
  | nil =>
      rw [word, hu, Except.ok.injEq] at h
      subst h
      exact ⟨bs, fun _ _ => rfl⟩
  | cons w ws ih =>
      cases bs with
      | nil => cases h
      | cons b bs =>
          simp only [word, List.cons_append] at h ⊢
          split at h
          · next hb =>
              rcases ih bs h with ⟨rest, hrest⟩
              exact ⟨rest, fun tail hends => by rw [if_pos hb, hrest tail hends]⟩
          · cases h

theorem keepsValue_stringDoc : KeepsValue stringDoc := by
  intro bs room v h
  have hstrict : (quotedText bs).map Json.string = .ok v := by
    unfold stringDoc at h
    split at h
    · exact h
    · exact h
  rcases ok_of_map hstrict with ⟨s, hs, rfl⟩
  rcases quotedText_append hs with ⟨rest, -, hrest⟩
  refine ⟨rest, fun tail _ => ?_⟩
  rw [stringDoc, (hrest tail).2, (hrest tail).1]
  rfl

theorem keepsValue_numberDoc (b : UInt8) : KeepsValue fun bs => numberDoc (b :: bs) := by
  intro bs room v h
  unfold numberDoc at h
  dsimp only at h
  split at h
  · next number rest hdecimal =>
      rcases ok_of_map h with ⟨x, hx, rfl⟩
      refine ⟨rest, fun tail hends => ?_⟩
      have hdecimal' := keeps_decimal hends _ _ _ hdecimal
      rw [List.cons_append] at hdecimal'
      simp only [numberDoc, hdecimal', hx, ofJson]
  · cases h

/-- What begins neither an array nor an object is read from the bytes after the first one alone. -/
theorem readDoc_leaf {b : UInt8} (harray : b ≠ 0x5B) (hobject : b ≠ 0x7B) :
    ∃ read, KeepsValue read ∧
      ∀ n bs rest, skipBlanks bs = b :: rest → readDoc (n + 1) bs = read rest := by
  have harray' : ¬(b == 0x5B) = true := mt beq_iff_eq.mp harray
  have hobject' : ¬(b == 0x7B) = true := mt beq_iff_eq.mp hobject
  -- The first byte decides which reader goes on, and these are tried in its order.
  by_cases hnull : (b == 0x6E) = true
  · refine ⟨_, keepsValue_word [0x75, 0x6C, 0x6C] .null fun _ => rfl, fun n bs rest h => ?_⟩
    simp only [readDoc, h, hnull, if_true, ofJson]
  by_cases htrue : (b == 0x74) = true
  · refine ⟨_, keepsValue_word [0x72, 0x75, 0x65] (.bool true) fun _ => rfl,
      fun n bs rest h => ?_⟩
    simp only [readDoc, h, hnull, htrue, if_true, ofJson]
    rfl
  by_cases hfalse : (b == 0x66) = true
  · refine ⟨_, keepsValue_word [0x61, 0x6C, 0x73, 0x65] (.bool false) fun _ => rfl,
      fun n bs rest h => ?_⟩
    simp only [readDoc, h, hnull, htrue, hfalse, if_true, ofJson]
    rfl
  by_cases hquote : (b == 0x22) = true
  · refine ⟨_, keepsValue_stringDoc, fun n bs rest h => ?_⟩
    simp only [readDoc, h, hnull, htrue, hfalse, hquote, if_true]
    rfl
  by_cases hnumber : (b == 0x2D || isDigit b) = true
  · refine ⟨_, keepsValue_numberDoc b, fun n bs rest h => ?_⟩
    simp only [readDoc, h, hnull, htrue, hfalse, hquote, hnumber, if_true]
    rfl
  · -- No value begins with this byte.
    refine ⟨fun _ => (.broken .malformed, none), ?_, fun n bs rest h => ?_⟩
    · intro bs room v h
      cases h
    · simp only [readDoc, h, hnull, htrue, hfalse, hquote, hnumber, harray', hobject']
      rfl

/-! ### Arrays and objects -/

/-- Bytes begin with the document of a value and leave `rest`, whatever the tail, and with any
    larger bound. -/
def Begins (n : Nat) (bs : List UInt8) (v : Json) (rest : List UInt8) : Prop :=
  ∀ m tail, n ≤ m → Ends tail → readDoc m (bs ++ tail) = (ofJson v, some (rest ++ tail))

theorem ends_nil : Ends [] :=
  fun _ h => nomatch h

/-- In particular they do so without a tail. -/
theorem Begins.read {n : Nat} {bs rest : List UInt8} {v : Json} (h : Begins n bs v rest) :
    readDoc n bs = (ofJson v, some rest) := by
  have hread := h n [] (Nat.le_refl n) ends_nil
  rwa [List.append_nil, List.append_nil] at hread

/-- Documents that have a value stay what they are, with any tail and any larger bound. -/
def KeepsDocs (n : Nat) : Prop :=
  ∀ bs room v, (readDoc n bs).1.strict room = .ok v → ∃ rest, Begins n bs v rest

/-- So do the items of an array. -/
def KeepsItems (n : Nat) : Prop :=
  ∀ bs room vs rest, strictItems room (readItems n bs).1 = .ok vs →
    (readItems n bs).2 = .ok rest →
    ∀ m tail, n ≤ m → Ends tail → readItems m (bs ++ tail) = (ofItems vs, .ok (rest ++ tail))

/-- So do the members of an object. -/
def KeepsMembers (n : Nat) : Prop :=
  ∀ bs room ms rest, strictMembers room (readMembers n bs).1 = .ok ms →
    (readMembers n bs).2 = .ok rest →
    ∀ m tail, n ≤ m → Ends tail →
      readMembers m (bs ++ tail) = (ofMembers ms, .ok (rest ++ tail))

/-- An array without items. -/
theorem readDoc_array_nil {n : Nat} {bs rest rest' : List UInt8} (h : skipBlanks bs = 0x5B :: rest)
    (hrest : skipBlanks rest = 0x5D :: rest') :
    readDoc (n + 1) bs = (.array [] none, some rest') := by
  rw [readDoc, h]
  dsimp only
  rw [hrest]
  rfl

/-- An array with items is what its items are. -/
theorem readDoc_array_cons {n : Nat} {bs rest rest' : List UInt8} {b : UInt8}
    (h : skipBlanks bs = 0x5B :: rest) (hrest : skipBlanks rest = b :: rest') (hb : b ≠ 0x5D) :
    readDoc (n + 1) bs = match readItems n (b :: rest') with
      | (items, .ok rest) => (.array items none, some rest)
      | (items, .error f) => (.array items (some f), none) := by
  rw [readDoc, h]
  dsimp only
  rw [hrest, if_neg (by decide), if_neg (by decide), if_neg (by decide), if_neg (by decide),
    if_neg (by decide), if_pos (by decide)]
  split
  · next heq => exact absurd (List.cons.inj heq).1 hb
  · next heq => cases heq
  · rfl

/-- An object without members. -/
theorem readDoc_object_nil {n : Nat} {bs rest rest' : List UInt8} (h : skipBlanks bs = 0x7B :: rest)
    (hrest : skipBlanks rest = 0x7D :: rest') :
    readDoc (n + 1) bs = (.object [] none, some rest') := by
  rw [readDoc, h]
  dsimp only
  rw [hrest]
  rfl

/-- An object with members is what its members are. -/
theorem readDoc_object_cons {n : Nat} {bs rest rest' : List UInt8} {b : UInt8}
    (h : skipBlanks bs = 0x7B :: rest) (hrest : skipBlanks rest = b :: rest') (hb : b ≠ 0x7D) :
    readDoc (n + 1) bs = match readMembers n (b :: rest') with
      | (members, .ok rest) => (.object members none, some rest)
      | (members, .error f) => (.object members (some f), none) := by
  rw [readDoc, h]
  dsimp only
  rw [hrest, if_neg (by decide), if_neg (by decide), if_neg (by decide), if_neg (by decide),
    if_neg (by decide), if_neg (by decide), if_pos (by decide)]
  split
  · next heq => exact absurd (List.cons.inj heq).1 hb
  · rfl

/-- An array that has a value is closed, and its items have values. -/
theorem strict_array {room : Nat} {items : List Doc} {close : Option Fault} {v : Json}
    (h : (array items close).strict room = .ok v) :
    ∃ vs, strictItems (room - 1) items = .ok vs ∧ close = none ∧ v = .array vs := by
  rw [strict] at h
  split at h
  · cases h
  · rcases ok_of_bind h with ⟨vs, hvs, hgo⟩
    cases close with
    | none => exact ⟨vs, hvs, rfl, (Except.ok.inj hgo).symm⟩
    | some f => cases hgo

/-- An object that has a value is closed, and its members have values. -/
theorem strict_object {room : Nat} {members : List (Except Fault String × Doc)}
    {close : Option Fault} {v : Json} (h : (object members close).strict room = .ok v) :
    ∃ ms, strictMembers (room - 1) members = .ok ms ∧ close = none ∧ v = .object ms := by
  rw [strict] at h
  split at h
  · cases h
  · rcases ok_of_bind h with ⟨ms, hms, hgo⟩
    cases close with
    | none => exact ⟨ms, hms, rfl, (Except.ok.inj hgo).symm⟩
    | some f => cases hgo

/-- An array stays what it is if its items do. -/
theorem begins_array {n : Nat} (hitems : KeepsItems n) {bs rest : List UInt8} {room : Nat}
    {v : Json} (hbs : skipBlanks bs = 0x5B :: rest)
    (h : (readDoc (n + 1) bs).1.strict room = .ok v) : ∃ rest', Begins (n + 1) bs v rest' := by
  have hskip : ∀ tail, skipBlanks (bs ++ tail) = 0x5B :: (rest ++ tail) :=
    skipBlanks_append_cons hbs
  cases hrest : skipBlanks rest with
  | nil =>
      -- A text that ends behind its bracket has no value, so nothing has to be kept.
      have hcut : readDoc (n + 1) bs = (.array [] (some .cutShort), none) := by
        rw [readDoc, hbs]
        dsimp only
        rw [hrest]
        rfl
      rw [hcut] at h
      rcases strict_array h with ⟨vs, -, hclose, -⟩
      cases hclose
  | cons b rest' =>
      have hskip' : ∀ tail, skipBlanks (rest ++ tail) = b :: (rest' ++ tail) :=
        skipBlanks_append_cons hrest
      by_cases hb : b = 0x5D
      · subst hb
        rw [readDoc_array_nil hbs hrest] at h
        rcases strict_array h with ⟨vs, hvs, -, rfl⟩
        cases hvs
        refine ⟨rest', fun m tail hm _ => ?_⟩
        rcases Nat.exists_eq_add_of_lt hm with ⟨k, rfl⟩
        exact readDoc_array_nil (hskip tail) (hskip' tail)
      · rw [readDoc_array_cons hbs hrest hb] at h
        split at h
        · next items after hread =>
            rcases strict_array h with ⟨vs, hvs, -, rfl⟩
            refine ⟨after, fun m tail hm hends => ?_⟩
            rcases Nat.exists_eq_add_of_lt hm with ⟨k, rfl⟩
            -- The items were read with less room than the array has now, so they are read again.
            have hkeeps := hitems (b :: rest') _ vs after (by rw [hread]; exact hvs)
              (by rw [hread]) (n + k) tail (Nat.le_add_right n k) hends
            rw [readDoc_array_cons (hskip tail) (hskip' tail) hb, ← List.cons_append, hkeeps]
            rfl
        · rcases strict_array h with ⟨vs, -, hclose, -⟩
          cases hclose

/-- An object stays what it is if its members do. -/
theorem begins_object {n : Nat} (hmembers : KeepsMembers n) {bs rest : List UInt8} {room : Nat}
    {v : Json} (hbs : skipBlanks bs = 0x7B :: rest)
    (h : (readDoc (n + 1) bs).1.strict room = .ok v) : ∃ rest', Begins (n + 1) bs v rest' := by
  have hskip : ∀ tail, skipBlanks (bs ++ tail) = 0x7B :: (rest ++ tail) :=
    skipBlanks_append_cons hbs
  cases hrest : skipBlanks rest with
  | nil =>
      -- A text that ends behind its brace has no value either, but the fault is not the same for
      -- each room.
      have hcut : ∃ f, readDoc (n + 1) bs = (.object [] (some f), none) := by
        rw [readDoc, hbs]
        dsimp only
        rw [hrest]
        cases n <;> exact ⟨_, rfl⟩
      rcases hcut with ⟨f, hcut⟩
      rw [hcut] at h
      rcases strict_object h with ⟨ms, -, hclose, -⟩
      cases hclose
  | cons b rest' =>
      have hskip' : ∀ tail, skipBlanks (rest ++ tail) = b :: (rest' ++ tail) :=
        skipBlanks_append_cons hrest
      by_cases hb : b = 0x7D
      · subst hb
        rw [readDoc_object_nil hbs hrest] at h
        rcases strict_object h with ⟨ms, hms, -, rfl⟩
        cases hms
        refine ⟨rest', fun m tail hm _ => ?_⟩
        rcases Nat.exists_eq_add_of_lt hm with ⟨k, rfl⟩
        exact readDoc_object_nil (hskip tail) (hskip' tail)
      · rw [readDoc_object_cons hbs hrest hb] at h
        split at h
        · next members after hread =>
            rcases strict_object h with ⟨ms, hms, -, rfl⟩
            refine ⟨after, fun m tail hm hends => ?_⟩
            rcases Nat.exists_eq_add_of_lt hm with ⟨k, rfl⟩
            -- As for an array, the members are read again with the room that is there now.
            have hkeeps := hmembers (b :: rest') _ ms after (by rw [hread]; exact hms)
              (by rw [hread]) (n + k) tail (Nat.le_add_right n k) hends
            rw [readDoc_object_cons (hskip tail) (hskip' tail) hb, ← List.cons_append, hkeeps]
            rfl
        · rcases strict_object h with ⟨ms, -, hclose, -⟩
          cases hclose

theorem keepsDocs_succ {n : Nat} (hitems : KeepsItems n) (hmembers : KeepsMembers n) :
    KeepsDocs (n + 1) := by
  intro bs room v h
  cases hbs : skipBlanks bs with
  | nil =>
      rw [readDoc, hbs] at h
      cases h
  | cons b rest =>
      by_cases harray : b = 0x5B
      · subst harray
        exact begins_array hitems hbs h
      by_cases hobject : b = 0x7B
      · subst hobject
        exact begins_object hmembers hbs h
      rcases readDoc_leaf harray hobject with ⟨read, hkeeps, hread⟩
      rw [hread n bs rest hbs] at h
      rcases hkeeps rest room v h with ⟨rest', hrest⟩
      refine ⟨rest', fun m tail hm hends => ?_⟩
      rcases Nat.exists_eq_add_of_lt hm with ⟨k, rfl⟩
      rw [hread (n + k) (bs ++ tail) _ (skipBlanks_append_cons hbs tail), hrest tail hends]

/-- The items begin with the document that the bytes begin with. -/
theorem readItems_head (n : Nat) (bs : List UInt8) :
    ∃ ds, (readItems (n + 1) bs).1 = (readDoc n bs).1 :: ds := by
  rw [readItems]
  rcases readDoc n bs with ⟨d, - | rest⟩
  · exact ⟨[], rfl⟩
  · dsimp only
    split
    · exact ⟨[], rfl⟩
    · exact ⟨[], rfl⟩
    · exact ⟨_, rfl⟩
    · exact ⟨[], rfl⟩

/-- The first item stays what it is as a document, and the others with a smaller bound. -/
theorem keepsItems_succ {n : Nat} (hdocs : KeepsDocs n) (hitems : KeepsItems n) :
    KeepsItems (n + 1) := by
  intro bs room vs rest hvs hrest m tail hm hends
  rcases Nat.exists_eq_add_of_lt hm with ⟨k, rfl⟩
  have hk : n ≤ n + k := Nat.le_add_right n k
  have hfirst : ∃ v, (readDoc n bs).1.strict room = .ok v := by
    rcases readItems_head n bs with ⟨ds, hds⟩
    rw [hds] at hvs
    rcases ok_of_bind hvs with ⟨v, hv, -⟩
    exact ⟨v, hv⟩
  rcases hfirst with ⟨v, hv⟩
  rcases hdocs bs room v hv with ⟨after, hafter⟩
  rw [hafter.read] at hv
  rw [readItems, hafter.read] at hvs hrest
  rw [readItems, hafter (n + k) tail hk hends]
  dsimp only at hv hvs hrest ⊢
  -- The byte after the item says whether the array ends, goes on or is none.
  cases hskip : skipBlanks after with
  | nil =>
      rw [hskip] at hrest
      cases hrest
  | cons b after' =>
      rw [skipBlanks_append_cons hskip tail]
      rw [hskip] at hvs hrest
      by_cases hclose : b = 0x5D
      · subst hclose
        rcases ok_of_bind hvs with ⟨v', hv', hnil⟩
        cases hv.symm.trans hv'
        cases hnil
        cases hrest
        rfl
      by_cases hcomma : b = 0x2C
      · subst hcomma
        rcases ok_of_bind hvs with ⟨v', hv', hgo⟩
        cases hv.symm.trans hv'
        rcases ok_of_bind hgo with ⟨vs', hvs', hend⟩
        cases hend
        change (ofJson v :: (readItems (n + k) (after' ++ tail)).1, _) = _
        rw [hitems _ room vs' rest hvs' hrest (n + k) tail hk hends]
        rfl
      · split at hrest
        · next heq => cases heq
        · next heq => exact absurd (List.cons.inj heq).1 hclose
        · next heq => exact absurd (List.cons.inj heq).1 hcomma
        · cases hrest

/-- A member is a name, a colon and a document, and then other members or the end. -/
theorem readMembers_member {n : Nat} {bs text rest rest' : List UInt8}
    (hbs : skipBlanks bs = 0x22 :: text) (htext : passedQuoted (text.length + 1) text = .ok rest)
    (hcolon : skipBlanks rest = 0x3A :: rest') :
    readMembers (n + 1) bs = match readDoc n rest' with
      | (d, none) => ([(quotedText text, d)], .error .cutShort)
      | (d, some rest) =>
        match skipBlanks rest with
        | [] => ([(quotedText text, d)], .error .cutShort)
        | 0x7D :: rest => ([(quotedText text, d)], .ok rest)
        | 0x2C :: rest =>
          ((quotedText text, d) :: (readMembers n rest).1, (readMembers n rest).2)
        | _ => ([(quotedText text, d)], .error .malformed) := by
  rw [readMembers, hbs]
  split
  · next hquote => cases hquote
  · next hquote =>
      cases hquote
      rw [htext]
      dsimp only
      rw [hcolon]
      rfl
  · next hquote => exact absurd rfl (hquote text)

/-- Members with values begin with a name, a colon and a document with a value. -/
theorem readMembers_head {n room : Nat} {bs text : List UInt8} {ms : List (String × Json)}
    (hbs : skipBlanks bs = 0x22 :: text)
    (h : strictMembers room (readMembers (n + 1) bs).1 = .ok ms) :
    ∃ name after after', quotedText text = .ok name ∧
      passedQuoted (text.length + 1) text = .ok after ∧ skipBlanks after = 0x3A :: after' ∧
      ∃ v, (readDoc n after').1.strict room = .ok v := by
  have hkey : ∀ key d members, strictMembers room ((key, d) :: members) = .ok ms →
      ∃ name, key = .ok name ∧ ∃ v, d.strict room = .ok v := by
    intro key d members h
    rcases ok_of_bind h with ⟨name, hname, hgo⟩
    rcases ok_of_bind hgo with ⟨v, hv, -⟩
    exact ⟨name, hname, v, hv⟩
  simp only [readMembers, hbs] at h
  split at h
  · rcases hkey _ _ _ h with ⟨-, -, v, hv⟩
    cases hv
  · next after htext =>
      split at h
      · rcases hkey _ _ _ h with ⟨-, -, v, hv⟩
        cases hv
      · next after' hcolon =>
          -- Whatever follows the document, it is the document of the first member.
          have hdoc : ∃ name, quotedText text = .ok name ∧
              ∃ v, (readDoc n after').1.strict room = .ok v := by
            split at h
            · next hread =>
                rw [hread]
                exact hkey _ _ _ h
            · next hread =>
                rw [hread]
                split at h
                · exact hkey _ _ _ h
                · exact hkey _ _ _ h
                · exact hkey _ _ _ h
                · exact hkey _ _ _ h
          rcases hdoc with ⟨name, hname, hv⟩
          exact ⟨name, after, after', hname, htext, hcolon, hv⟩
      · rcases hkey _ _ _ h with ⟨-, -, v, hv⟩
        cases hv

/-- The same of members. The name of the first one stays what it is as a string. -/
theorem keepsMembers_succ {n : Nat} (hdocs : KeepsDocs n) (hmembers : KeepsMembers n) :
    KeepsMembers (n + 1) := by
  intro bs room ms rest hms hrest m tail hm hends
  rcases Nat.exists_eq_add_of_lt hm with ⟨k, rfl⟩
  have hk : n ≤ n + k := Nat.le_add_right n k
  have hquote : ∃ text, skipBlanks bs = 0x22 :: text := by
    rw [readMembers] at hrest
    split at hrest
    · cases hrest
    · next text hbs => exact ⟨text, hbs⟩
    · cases hrest
  rcases hquote with ⟨text, hbs⟩
  rcases readMembers_head hbs hms with ⟨name, after, after', hname, htext, hcolon, v, hv⟩
  rcases quotedText_append hname with ⟨after₁, htext', hname'⟩
  cases htext.symm.trans htext'
  rcases hdocs after' room v hv with ⟨next, hnext⟩
  rw [hnext.read] at hv
  rw [readMembers_member hbs htext hcolon, hnext.read, hname] at hms hrest
  rw [readMembers_member (skipBlanks_append_cons hbs tail) (hname' tail).2
    (skipBlanks_append_cons hcolon tail), hnext (n + k) tail hk hends, (hname' tail).1]
  dsimp only at hv hms hrest ⊢
  -- The byte after the member says whether the object ends, goes on or is none.
  cases hskip : skipBlanks next with
  | nil =>
      rw [hskip] at hrest
      cases hrest
  | cons b next' =>
      rw [skipBlanks_append_cons hskip tail]
      rw [hskip] at hms hrest
      by_cases hclose : b = 0x7D
      · subst hclose
        rcases ok_of_bind hms with ⟨name', hname', hgo⟩
        cases hname'
        rcases ok_of_bind hgo with ⟨v', hv', hnil⟩
        cases hv.symm.trans hv'
        cases hnil
        cases hrest
        rfl
      by_cases hcomma : b = 0x2C
      · subst hcomma
        rcases ok_of_bind hms with ⟨name', hname', hgo⟩
        cases hname'
        rcases ok_of_bind hgo with ⟨v', hv', hgo'⟩
        cases hv.symm.trans hv'
        rcases ok_of_bind hgo' with ⟨ms', hms', hend⟩
        cases hend
        change ((_, ofJson v) :: (readMembers (n + k) (next' ++ tail)).1, _) = _
        rw [hmembers _ room ms' rest hms' hrest (n + k) tail hk hends]
        rfl
      · split at hrest
        · next heq => cases heq
        · next heq => exact absurd (List.cons.inj heq).1 hclose
        · next heq => exact absurd (List.cons.inj heq).1 hcomma
        · cases hrest

/-- Whatever has a value stays what it is, by induction on the bound. -/
theorem keeps_all (n : Nat) : KeepsDocs n ∧ KeepsItems n ∧ KeepsMembers n := by
  induction n with
  | zero =>
      refine ⟨?_, ?_, ?_⟩
      · intro bs room v h
        cases h
      · intro bs room vs rest _ hrest
        cases hrest
      · intro bs room ms rest _ hrest
        cases hrest
  | succ n ih =>
      rcases ih with ⟨hdocs, hitems, hmembers⟩
      exact ⟨keepsDocs_succ hitems hmembers, keepsItems_succ hdocs hitems,
        keepsMembers_succ hdocs hmembers⟩

/-! ### Room for what is nested -/

mutual

/-- The document of a value has the value if there is room enough. What has no parts takes none. -/
theorem strict_ofJson (room : Nat) (v : Json) :
    (ofJson v).strict room = if v.depth < max room 1 then .ok v else .error .malformed := by
  match v with
  -- A value without parts needs no room, whatever is given.
  | .null | .bool _ | .number _ | .string _ =>
    exact (if_pos (Nat.lt_of_lt_of_le Nat.zero_lt_one (Nat.le_max_right room 1))).symm
  | .array items =>
    rw [ofJson, strict, depth]
    -- The last place is not enough for an array, not even for an empty one.
    by_cases hroom : room ≤ 1
    · rw [if_pos hroom, if_neg (by omega)]
    · rw [if_neg hroom, strictItems_ofItems (room - 1) items]
      by_cases hdepth : depthItems items < max (room - 1) 1
      · rw [if_pos hdepth, if_pos (by omega)]
        rfl
      · rw [if_neg hdepth, if_neg (by omega)]
        rfl
  | .object members =>
    rw [ofJson, strict, depth]
    by_cases hroom : room ≤ 1
    · rw [if_pos hroom, if_neg (by omega)]
    · rw [if_neg hroom, strictMembers_ofMembers (room - 1) members]
      by_cases hdepth : depthMembers members < max (room - 1) 1
      · rw [if_pos hdepth, if_pos (by omega)]
        rfl
      · rw [if_neg hdepth, if_neg (by omega)]
        rfl

theorem strictItems_ofItems (room : Nat) (vs : List Json) :
    strictItems room (ofItems vs)
      = if depthItems vs < max room 1 then .ok vs else .error .malformed := by
  match vs with
  | [] =>
    exact (if_pos (Nat.lt_of_lt_of_le Nat.zero_lt_one (Nat.le_max_right room 1))).symm
  | v :: vs =>
    rw [ofItems, strictItems, strict_ofJson room v, strictItems_ofItems room vs, depthItems]
    by_cases hfirst : v.depth < max room 1
    · by_cases hothers : depthItems vs < max room 1
      · rw [if_pos hfirst, if_pos hothers, if_pos (by omega)]
        rfl
      · rw [if_pos hfirst, if_neg hothers, if_neg (by omega)]
        rfl
    · rw [if_neg hfirst, if_neg (show ¬max v.depth (depthItems vs) < max room 1 by omega)]
      rfl

theorem strictMembers_ofMembers (room : Nat) (ms : List (String × Json)) :
    strictMembers room (ofMembers ms)
      = if depthMembers ms < max room 1 then .ok ms else .error .malformed := by
  match ms with
  | [] =>
    exact (if_pos (Nat.lt_of_lt_of_le Nat.zero_lt_one (Nat.le_max_right room 1))).symm
  | (name, v) :: ms =>
    rw [ofMembers, strictMembers, strict_ofJson room v, strictMembers_ofMembers room ms,
      depthMembers]
    by_cases hfirst : v.depth < max room 1
    · by_cases hothers : depthMembers ms < max room 1
      · rw [if_pos hfirst, if_pos hothers, if_pos (by omega)]
        rfl
      · rw [if_pos hfirst, if_neg hothers, if_neg (by omega)]
        rfl
    · rw [if_neg hfirst, if_neg (show ¬max v.depth (depthMembers ms) < max room 1 by omega)]
      rfl

end

/-! ### Whole texts -/

/-- A text that has a value begins with it, and only blanks are left. -/
theorem begins_of_read {t : List UInt8} {v : Json} (h : Json.read t = .ok v) :
    ∃ rest, Begins (2 * t.length + 2) t v rest ∧ skipBlanks rest = [] := by
  have hread : Doc.read t = ((readDoc (2 * t.length + 2) t).1,
      (readDoc (2 * t.length + 2) t).2.bind fun rest =>
        if (skipBlanks rest).isEmpty then none else some .malformed) := by
    unfold Doc.read
    rcases readDoc (2 * t.length + 2) t with ⟨d, - | rest⟩
    · rfl
    · rfl
  unfold Json.read at h
  rw [hread] at h
  rcases ok_of_bind h with ⟨v', hv', hgo⟩
  rcases ok_of_bind hgo with ⟨_, hclosed, hend⟩
  cases hend
  -- A document that breaks off has no value, so what is left of the text is known.
  rcases (keeps_all _).1 t fullRoom v hv' with ⟨rest, hbegins⟩
  rw [hbegins.read] at hclosed
  refine ⟨rest, hbegins, ?_⟩
  dsimp only [Option.bind] at hclosed
  split at hclosed
  · next hempty => exact List.isEmpty_iff.mp hempty
  · cases hclosed

/-- A text that has a value is read as the document of the value, and nothing follows it. -/
theorem read_of_ok {t : List UInt8} {v : Json} (h : Json.read t = .ok v) :
    Doc.read t = (ofJson v, none) := by
  rcases begins_of_read h with ⟨rest, hbegins, hblank⟩
  rw [Doc.read, hbegins.read]
  dsimp only
  rw [hblank]
  rfl

/-- The text of an array, from the texts of its items. -/
def bracketed (texts : List (List UInt8)) : List UInt8 :=
  0x5B :: (List.intercalate [0x2C] texts ++ [0x5D])

theorem ends_comma (tail : List UInt8) : Ends (0x2C :: tail) := by
  intro b hb
  cases Option.some.inj hb
  decide

theorem ends_bracket (tail : List UInt8) : Ends (0x5D :: tail) := by
  intro b hb
  cases Option.some.inj hb
  decide

/-- No document begins with the end of an array. -/
theorem Begins.skipBlanks_ne {n : Nat} {bs rest : List UInt8} {v : Json}
    (h : Begins n bs v rest) : ∃ b bs', skipBlanks bs = b :: bs' ∧ b ≠ 0x5D := by
  have hread := h (n + 1) [] (Nat.le_succ n) ends_nil
  rw [List.append_nil, readDoc] at hread
  cases hbs : skipBlanks bs with
  | nil =>
      rw [hbs] at hread
      exact nomatch (Prod.mk.inj hread).2
  | cons b bs' =>
      refine ⟨b, bs', rfl, ?_⟩
      rintro rfl
      rw [hbs] at hread
      exact nomatch (Prod.mk.inj hread).2

/-- The items between brackets are the documents of their texts. The bound is that of the whole
    text; each item takes one step off it and at least two bytes off the text. -/
theorem readItems_texts {texts : List (List UInt8)} {vs : List Json}
    (h : List.Forall₂ (fun t v => Json.read t = .ok v) texts vs) (hne : texts ≠ []) (m : Nat)
    (hm : 2 * (List.intercalate [0x2C] texts).length + 3 ≤ m) :
    readItems m (List.intercalate [0x2C] texts ++ [0x5D]) = (ofItems vs, .ok []) := by
  induction h generalizing m with
  | nil => exact absurd rfl hne
  | @cons t v texts vs hread hreads ih =>
      rcases begins_of_read hread with ⟨rest, hbegins, hblank⟩
      rcases m with - | m
      · omega
      -- Only the last item has the bracket behind it, and the others have a comma.
      cases hreads with
      | nil =>
          rw [List.intercalate_singleton] at hm ⊢
          rw [readItems, hbegins m [0x5D] (by omega) (ends_bracket [])]
          dsimp only
          rw [skipBlanks_append hblank]
          rfl
      | @cons t' v' texts vs hread' hreads =>
          have hlength : (List.intercalate [0x2C] (t :: t' :: texts)).length
              = t.length + 1 + (List.intercalate [0x2C] (t' :: texts)).length := by
            rw [List.intercalate_cons_cons, List.length_append, List.length_append]
            rfl
          rw [hlength] at hm
          have hothers := ih (List.cons_ne_nil t' texts) m (by omega)
          rw [List.intercalate_cons_cons, List.append_assoc, List.append_assoc,
            List.singleton_append, readItems, hbegins m _ (by omega) (ends_comma _)]
          dsimp only
          rw [skipBlanks_append hblank]
          change (ofJson v :: (readItems m (_ ++ [0x5D])).1, _) = _
          rw [hothers]
          rfl

/-- The document of a text in brackets. -/
theorem read_texts {texts : List (List UInt8)} {vs : List Json}
    (h : List.Forall₂ (fun t v => Json.read t = .ok v) texts vs) :
    Doc.read (bracketed texts) = (ofJson (.array vs), none) := by
  have hbracket : ∀ bs, skipBlanks (0x5B :: bs) = 0x5B :: bs := fun _ => rfl
  cases h with
  | nil => rfl
  | @cons t v texts vs hread hreads =>
      rcases begins_of_read hread with ⟨rest, hbegins, -⟩
      rcases hbegins.skipBlanks_ne with ⟨b, bs, hb, hne⟩
      -- A value never begins with a closing bracket, so the array is not taken for an empty one.
      have hskip : ∃ bs',
          skipBlanks (List.intercalate [0x2C] (t :: texts) ++ [0x5D]) = b :: bs' := by
        cases texts with
        | nil =>
            rw [List.intercalate_singleton]
            exact ⟨_, skipBlanks_append_cons hb _⟩
        | cons t' texts =>
            rw [List.intercalate_cons_cons, List.append_assoc, List.append_assoc]
            exact ⟨_, skipBlanks_append_cons hb _⟩
      rcases hskip with ⟨bs', hskip⟩
      have hbound : 2 * (List.intercalate [0x2C] (t :: texts)).length + 3
          ≤ 2 * (bracketed (t :: texts)).length + 1 := by
        simp only [bracketed, List.length_cons, List.length_append]
        omega
      have hitems := readItems_texts (.cons hread hreads) (List.cons_ne_nil t texts) _ hbound
      -- The reader of items starts behind the blanks, where the array left it.
      rw [← readItems_skipBlanks, hskip] at hitems
      rw [Doc.read]
      rw [bracketed] at hitems ⊢
      rw [readDoc_array_cons (hbracket _) hskip hne, hitems]
      rfl

/-- Texts of values in brackets are the array of the values, unless one of them is nested so deep
    that it has no room in an array. -/
theorem read_bracketed {texts : List (List UInt8)} {vs : List Json}
    (h : List.Forall₂ (fun t v => Json.read t = .ok v) texts vs) :
    Json.read (bracketed texts) =
      if ∀ v ∈ vs, v.depth + 1 < fullRoom then .ok (.array vs) else .error .malformed := by
  have hdepth : ∀ vs : List Json,
      depthItems vs + 1 < max fullRoom 1 ↔ ∀ v ∈ vs, v.depth + 1 < fullRoom := by
    intro vs
    induction vs with
    | nil => decide
    | cons v vs ih =>
        rw [List.forall_mem_cons, ← ih, depthItems]
        unfold fullRoom
        omega
  rw [Json.read, read_texts h]
  dsimp only
  rw [strict_ofJson, depth]
  by_cases hall : ∀ v ∈ vs, v.depth + 1 < fullRoom
  · rw [if_pos ((hdepth vs).mpr hall), if_pos hall]
    rfl
  · rw [if_neg (mt (hdepth vs).mp hall), if_neg hall]
    rfl

end Doc

end Json

end RunReport
