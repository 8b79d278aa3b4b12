import RunReport.Json.Doc
import RunReport.Proofs.Reading

/-!
# JSON with a Tail

What is read of a string or a number does not change if more bytes are put behind it.

A reader looks at the bytes after what it reads in one place only: a number ends where no digit,
point or exponent follows. So the tail must not begin with one of these, and then the reader gives
the same and leaves the tail behind what it left before (`Keeps`). Each part of a reader is shown to
do so, and the readers are put together from their parts.

Strings are read twice, once for their text and once to find their end. The two go in different
steps: two escapes that write one character together are one step of the first and two of the
second. Both are given a bound on their steps that is large enough, but of different texts, so
`passedQuoted_of_quoted` goes by the length of what is left and not by the steps. A string that has
a text has an end, at the same place.

## Main definitions

* `Doc.Ends`: Bytes that no number goes on with.
* `Doc.Keeps`: A step that gives the same with a tail, and leaves the tail.
* `Doc.unsignedParts`: The parts of a number after its sign.

## Theorems

* `Doc.keeps_escape`: What an escape stands for.
* `Doc.quoted_append`: The text of a string.
* `Doc.passedQuoted_of_quoted`: The end of a string that has a text.
* `Doc.quotedText_append`: Both, with a tail and without.
* `Doc.keeps_decimal`: The parts of a number.
-/

namespace RunReport

namespace Json

namespace Doc

/-- Bytes that no number goes on with. -/
def Ends (tail : List UInt8) : Prop :=
  ∀ b ∈ tail.head?, isDigit b = false ∧ b ≠ 0x2E ∧ b ≠ 0x65 ∧ b ≠ 0x45

/-- A step that gives the same with a tail as without, and leaves the tail. -/
def Keeps {α : Type} (tail : List UInt8) (step : List UInt8 → Step α) : Prop :=
  ∀ bs x rest, step bs = .ok (x, rest) → step (bs ++ tail) = .ok (x, rest ++ tail)

variable {α β : Type} {tail : List UInt8}

/-! ### Strings -/

theorem keeps_fourDigits : Keeps tail fourDigits := by
  intro bs n rest h
  rcases bs with - | ⟨a, - | ⟨b, - | ⟨c, - | ⟨d, bs⟩⟩⟩⟩
  case cons.cons.cons.cons =>
    simp only [fourDigits, List.cons_append] at h ⊢
    split at h
    · cases h
      rfl
    · cases h
  all_goals cases h

/-- A second half is an escape with four digits. -/
theorem secondHalf_inv {bs rest : List UInt8} {n : Nat} (h : secondHalf bs = .ok (n, rest)) :
    ∃ bs', bs = 0x5C :: 0x75 :: bs' ∧ fourDigits bs' = .ok (n, rest) := by
  rcases bs with - | ⟨b, - | ⟨u, bs⟩⟩
  · cases h
  · cases h
  · rw [secondHalf] at h
    split at h
    · next hb =>
        rw [Bool.and_eq_true, beq_iff_eq, beq_iff_eq] at hb
        rw [hb.1, hb.2]
        exact ⟨bs, rfl, h⟩
    · cases h

theorem keeps_secondHalf : Keeps tail secondHalf := by
  intro bs n rest h
  rcases secondHalf_inv h with ⟨bs', rfl, hdigits⟩
  exact keeps_fourDigits bs' n rest hdigits

theorem keeps_numberedChar : Keeps tail numberedChar := by
  intro bs c rest h
  unfold numberedChar at h ⊢
  rcases ok_of_bind h with ⟨⟨n, bs'⟩, hfirst, hgo⟩
  rw [keeps_fourDigits _ _ _ hfirst]
  -- The bind over a number that was read is the choice on that number.
  change (if _ then _ else _) = _ at hgo
  change (if _ then _ else _) = _
  split at hgo
  · cases hgo
  · next hlow =>
      rw [if_neg hlow]
      split at hgo
      · next hhigh =>
          rw [if_pos hhigh]
          rcases ok_of_bind hgo with ⟨⟨m, bs''⟩, hsecond, hend⟩
          rw [keeps_secondHalf _ _ _ hsecond]
          change (if _ then _ else _) = _ at hend
          change (if _ then _ else _) = _
          split at hend
          · next hm =>
              rw [Except.ok.injEq, Prod.mk.injEq] at hend
              rw [if_pos hm, hend.1, hend.2]
          · cases hend
      · next hhigh =>
          rw [if_neg hhigh]
          cases hgo
          rfl

/-- A character takes four digits, or four digits and a second half. -/
theorem numberedChar_inv {bs c rest : List UInt8} (h : numberedChar bs = .ok (c, rest)) :
    ∃ n bs', fourDigits bs = .ok (n, bs') ∧
      (bs' = rest ∨ ∃ m, secondHalf bs' = .ok (m, rest)) := by
  rcases ok_of_bind h with ⟨⟨n, bs'⟩, hfirst, hgo⟩
  refine ⟨n, bs', hfirst, ?_⟩
  change (if _ then _ else _) = _ at hgo
  split at hgo
  · cases hgo
  · split at hgo
    · rcases ok_of_bind hgo with ⟨⟨m, bs''⟩, hsecond, hend⟩
      change (if _ then _ else _) = _ at hend
      split at hend
      · rw [Except.ok.injEq, Prod.mk.injEq] at hend
        rw [hsecond, hend.2]
        exact .inr ⟨m, rfl⟩
      · cases hend
    · rw [Except.ok.injEq, Prod.mk.injEq] at hgo
      exact .inl hgo.2

theorem keeps_escape : Keeps tail escape := by
  intro bs c rest h
  cases bs with
  | nil => cases h
  | cons b bs =>
      simp only [escape, List.cons_append] at h ⊢
      split at h
      · cases h
        rfl
      · split at h
        · next hb =>
            rw [if_pos hb]
            exact keeps_numberedChar _ _ _ h
        · cases h

/-- A string has the same text with a tail, and with a larger bound. -/
theorem quoted_append {n m : Nat} {bs s rest : List UInt8} (h : quoted n bs = .ok (s, rest))
    (hm : n ≤ m) : quoted m (bs ++ tail) = .ok (s, rest ++ tail) := by
  induction n generalizing bs s m with
  | zero => cases bs <;> cases h
  | succ n ih =>
      rcases Nat.exists_eq_add_of_lt hm with ⟨k, rfl⟩
      have hk : n ≤ n + k := Nat.le_add_right n k
      cases bs with
      | nil => cases h
      | cons b bs =>
          simp only [quoted, List.cons_append] at h ⊢
          split at h
          · next hb =>
              rw [if_pos hb]
              cases h
              rfl
          · next hb =>
              rw [if_neg hb]
              split at h
              · -- An escape takes more bytes than one, but none of the tail (`keeps_escape`).
                next hslash =>
                  rw [if_pos hslash]
                  rcases ok_of_bind h with ⟨⟨c, bs'⟩, hescape, hgo⟩
                  rcases ok_of_bind hgo with ⟨⟨s', bs''⟩, hquoted, hend⟩
                  cases hend
                  rw [keeps_escape _ _ _ hescape]
                  change (quoted (n + k) (bs' ++ tail) >>= _) = _
                  rw [ih hquoted hk]
                  rfl
              · next hslash =>
                  rw [if_neg hslash]
                  split at h
                  · cases h
                  · next hcontrol =>
                      rw [if_neg hcontrol]
                      rcases ok_of_bind h with ⟨⟨s', bs'⟩, hquoted, hend⟩
                      cases hend
                      rw [ih hquoted hk]
                      rfl

/-- An escape for half a character stands before one for the other half. A string that is passed
    over has both, one after the other. -/
theorem passedEscape_of_escape {bs c rest : List UInt8} (h : escape bs = .ok (c, rest)) :
    passedEscape bs = .ok rest ∨
      ∃ bs', passedEscape bs = .ok (0x5C :: bs') ∧ passedEscape bs' = .ok rest := by
  -- A pair of halves is one escape where the text is read, and two where it is passed over.
  have hdigits : ∀ bs n rest, fourDigits bs = .ok (n, rest) →
      passedEscape (0x75 :: bs) = .ok rest := by
    intro bs n rest h
    change (fourDigits bs).map _ = _
    rw [h]
    rfl
  cases bs with
  | nil => cases h
  | cons b bs =>
      rw [escape] at h
      split at h
      · next x hsimple =>
          cases h
          rw [passedEscape, hsimple]
          exact .inl rfl
      · split at h
        · next hb =>
            cases beq_iff_eq.mp hb
            rcases numberedChar_inv h with ⟨n, bs', hfirst, rfl | ⟨m, hsecond⟩⟩
            · exact .inl (hdigits bs n bs' hfirst)
            · rcases secondHalf_inv hsecond with ⟨bs'', rfl, hsecond'⟩
              exact .inr ⟨_, hdigits bs n _ hfirst, hdigits bs'' m rest hsecond'⟩
        · cases h

theorem length_of_fourDigits {bs rest : List UInt8} {n : Nat}
    (h : fourDigits bs = .ok (n, rest)) : rest.length < bs.length := by
  rcases bs with - | ⟨a, - | ⟨b, - | ⟨c, - | ⟨d, bs⟩⟩⟩⟩
  case cons.cons.cons.cons =>
    rw [fourDigits] at h
    split at h
    · cases h
      simp only [List.length_cons]
      omega
    · cases h
  all_goals cases h

theorem length_of_passedEscape {bs rest : List UInt8} (h : passedEscape bs = .ok rest) :
    rest.length < bs.length := by
  cases bs with
  | nil => cases h
  | cons b bs =>
      rw [passedEscape] at h
      split at h
      · cases h
        exact Nat.lt_succ_self _
      · split at h
        · cases hdigits : fourDigits bs with
          | error f => exact absurd (hdigits ▸ h) (by simp [Except.map])
          | ok p =>
              rw [hdigits] at h
              cases h
              exact Nat.lt_succ_of_lt (length_of_fourDigits hdigits)
        · cases h

/-- A string that has a text ends at the same place when it is passed over. -/
theorem passedQuoted_of_quoted {n m : Nat} {bs s rest : List UInt8}
    (h : quoted n bs = .ok (s, rest)) (hm : bs.length < m) : passedQuoted m bs = .ok rest := by
  induction n generalizing bs s m with
  | zero => cases bs <;> cases h
  | succ n ih =>
      rcases m with - | m
      · exact absurd hm (Nat.not_lt_zero _)
      cases bs with
      | nil => cases h
      | cons b bs =>
          rw [List.length_cons] at hm
          simp only [quoted, passedQuoted] at h ⊢
          split at h
          · next hb =>
              rw [if_pos hb]
              cases h
              rfl
          · next hb =>
              rw [if_neg hb]
              split at h
              · next hslash =>
                  rw [if_pos hslash]
                  rcases ok_of_bind h with ⟨⟨c, bs'⟩, hescape, hgo⟩
                  rcases ok_of_bind hgo with ⟨⟨s', bs''⟩, hquoted, hend⟩
                  cases hend
                  -- One step of the text is one or two steps to its end.
                  rcases passedEscape_of_escape hescape with hone | ⟨between, hfirst, hsecond⟩
                  · have hlength := length_of_passedEscape hone
                    rw [hone]
                    exact ih hquoted (by omega)
                  · have hlength := length_of_passedEscape hfirst
                    have hlength' := length_of_passedEscape hsecond
                    rw [List.length_cons] at hlength
                    rcases m with - | m
                    · omega
                    rw [hfirst]
                    change (passedEscape between >>= passedQuoted m) = _
                    rw [hsecond]
                    exact ih hquoted (by omega)
              · next hslash =>
                  rw [if_neg hslash]
                  split at h
                  · cases h
                  · next hcontrol =>
                      rw [if_neg hcontrol]
                      rcases ok_of_bind h with ⟨⟨s', bs'⟩, hquoted, hend⟩
                      cases hend
                      exact ih hquoted (by omega)

/-- A string that has a text has an end, and both stay what they are with a tail. -/
theorem quotedText_append {bs : List UInt8} {s : String} (h : quotedText bs = .ok s) :
    ∃ rest, passedQuoted (bs.length + 1) bs = .ok rest ∧
      ∀ tail, quotedText (bs ++ tail) = .ok s ∧
        passedQuoted ((bs ++ tail).length + 1) (bs ++ tail) = .ok (rest ++ tail) := by
  rcases ok_of_bind h with ⟨⟨s', rest⟩, hquoted, hdecode⟩
  refine ⟨rest, passedQuoted_of_quoted hquoted (Nat.lt_succ_self _), fun tail => ?_⟩
  -- Each text is read with a bound of its own, and that of the longer one is larger.
  have hlength : bs.length + 1 ≤ (bs ++ tail).length + 1 := by
    rw [List.length_append]
    omega
  have hquoted' : quoted ((bs ++ tail).length + 1) (bs ++ tail) = .ok (s', rest ++ tail) :=
    quoted_append hquoted hlength
  refine ⟨?_, passedQuoted_of_quoted hquoted' (Nat.lt_succ_self _)⟩
  rw [quotedText, hquoted']
  exact hdecode

/-! ### Numbers -/

theorem keeps_someDigits (hends : Ends tail) : Keeps tail someDigits := by
  intro bs digits rest h
  -- Digits at the very end of the bytes do not go on in the tail.
  have htake : tail.takeWhile isDigit = [] := by
    cases tail with
    | nil => rfl
    | cons b tail => exact List.takeWhile_cons_of_neg (by simp [(hends b rfl).1])
  have hsame : (bs ++ tail).takeWhile isDigit = bs.takeWhile isDigit := by
    rw [List.takeWhile_append, htake, List.append_nil]
    split
    · next hall => exact ((List.takeWhile_prefix _).eq_of_length hall).symm
    · rfl
  have hle : (bs.takeWhile isDigit).length ≤ bs.length := (List.takeWhile_sublist _).length_le
  unfold someDigits at h ⊢
  rw [hsame]
  dsimp only at h ⊢
  cases hdigits : bs.takeWhile isDigit with
  | nil =>
      rw [hdigits] at h
      cases bs <;> cases h
  | cons d ds =>
      rw [hdigits] at h hle
      cases h
      dsimp only
      rw [List.drop_append_of_le_length hle]

theorem keeps_wholeDigits (hends : Ends tail) : Keeps tail wholeDigits := by
  intro bs digits rest h
  rcases ok_of_bind h with ⟨⟨digits', bs'⟩, hdigits, hgo⟩
  unfold wholeDigits
  rw [keeps_someDigits hends _ _ _ hdigits]
  change (if _ then _ else _) = _ at hgo
  change (if _ then _ else _) = _
  split at hgo
  · cases hgo
  · next hzero =>
      rw [if_neg hzero]
      cases hgo
      rfl

/-- What is made of a step keeps what the step keeps. -/
theorem Keeps.map {step : List UInt8 → Step α} (h : Keeps tail step) (f : α → β) :
    Keeps tail fun bs => (step bs).map fun (x, bs) => (f x, bs) := by
  intro bs y rest hok
  dsimp only at hok ⊢
  cases hstep : step bs with
  | error e => exact absurd (hstep ▸ hok) (by simp [Except.map])
  | ok p =>
      rw [hstep] at hok
      cases hok
      rw [h bs p.1 p.2 hstep]
      rfl

theorem keeps_fractionDigits (hends : Ends tail) : Keeps tail fractionDigits := by
  intro bs fraction rest h
  -- Where no point follows, nothing is taken, and the tail begins with no point.
  have hnone : ∀ bs : List UInt8, bs.head? ≠ some 0x2E →
      fractionDigits bs = .ok (none, bs) := by
    intro bs hne
    unfold fractionDigits
    split
    · exact absurd rfl hne
    · rfl
  cases bs with
  | nil =>
      cases h
      exact hnone tail fun hpoint => (hends _ hpoint).2.1 rfl
  | cons b bs =>
      by_cases hb : b = 0x2E
      · subst hb
        exact (keeps_someDigits hends).map some bs fraction rest h
      · have hne : ∀ bs : List UInt8, (b :: bs).head? ≠ some 0x2E :=
          fun _ hpoint => hb (Option.some.inj hpoint)
        rw [hnone _ (hne bs)] at h
        cases h
        exact hnone _ (hne _)

theorem keeps_signedDigits (hends : Ends tail) : Keeps tail signedDigits := by
  intro bs exponent rest h
  cases bs with
  | nil => cases h
  | cons b bs =>
      by_cases hplus : b = 0x2B
      · subst hplus
        exact (keeps_someDigits hends).map (fun digits => (ofDigits digits : Int)) _ _ _ h
      by_cases hminus : b = 0x2D
      · subst hminus
        exact (keeps_someDigits hends).map (fun digits => -(ofDigits digits : Int)) _ _ _ h
      -- Without a sign the first byte is a digit already.
      have hother : ∀ bs : List UInt8, signedDigits (b :: bs)
          = (someDigits (b :: bs)).map fun p => ((ofDigits p.1 : Int), p.2) := by
        intro bs
        unfold signedDigits
        split
        · next heq => exact absurd (List.cons.inj heq).1 hplus
        · next heq => exact absurd (List.cons.inj heq).1 hminus
        · rfl
      rw [hother] at h
      rw [List.cons_append, hother]
      exact (keeps_someDigits hends).map (fun digits => (ofDigits digits : Int)) _ _ _ h

theorem keeps_exponentPart (hends : Ends tail) : Keeps tail exponentPart := by
  intro bs exponent rest h
  -- Neither letter follows at the end of a number, and the tail begins with neither.
  have hnone : ∀ bs : List UInt8, bs.head? ≠ some 0x65 → bs.head? ≠ some 0x45 →
      exponentPart bs = .ok (none, bs) := by
    intro bs hsmall hcapital
    unfold exponentPart
    split
    · exact absurd rfl hsmall
    · exact absurd rfl hcapital
    · rfl
  cases bs with
  | nil =>
      cases h
      exact hnone tail (fun he => (hends _ he).2.2.1 rfl) fun he => (hends _ he).2.2.2 rfl
  | cons b bs =>
      by_cases hsmall : b = 0x65
      · subst hsmall
        exact (keeps_signedDigits hends).map some bs exponent rest h
      by_cases hcapital : b = 0x45
      · subst hcapital
        exact (keeps_signedDigits hends).map some bs exponent rest h
      have hother : ∀ bs : List UInt8, exponentPart (b :: bs) = .ok (none, b :: bs) :=
        fun _ => hnone _ (fun he => hsmall (Option.some.inj he))
          fun he => hcapital (Option.some.inj he)
      rw [hother] at h
      cases h
      exact hother _

/-- The parts of a number after its sign. -/
def unsignedParts (negative : Bool) (bs : List UInt8) :
    Except Fault (Decimal × List UInt8) := do
  let (whole, bs) ← wholeDigits bs
  let (fraction, bs) ← fractionDigits bs
  let (exponent, bs) ← exponentPart bs
  .ok ({ negative, whole, fraction, exponent }, bs)

theorem decimal_of_ne {bs : List UInt8} (h : bs.head? ≠ some 0x2D) :
    decimal bs = unsignedParts false bs := by
  unfold decimal
  split
  next negative rest hsign =>
    split at hsign
    · exact absurd rfl h
    · cases hsign
      rfl

theorem keeps_unsignedParts (hends : Ends tail) (negative : Bool) :
    Keeps tail (unsignedParts negative) := by
  intro bs number rest h
  rcases ok_of_bind h with ⟨⟨whole, bs'⟩, hwhole, hgo⟩
  rcases ok_of_bind hgo with ⟨⟨fraction, bs''⟩, hfraction, hgo'⟩
  rcases ok_of_bind hgo' with ⟨⟨exponent, bs'''⟩, hexponent, hend⟩
  cases hend
  simp only [unsignedParts, bind, Except.bind, keeps_wholeDigits hends _ _ _ hwhole,
    keeps_fractionDigits hends _ _ _ hfraction, keeps_exponentPart hends _ _ _ hexponent]

theorem keeps_decimal (hends : Ends tail) : Keeps tail decimal := by
  intro bs number rest h
  cases bs with
  | nil => cases h
  | cons b bs =>
      by_cases hb : b = 0x2D
      · subst hb
        exact keeps_unsignedParts hends true bs number rest h
      · have hne : ∀ bs : List UInt8, (b :: bs).head? ≠ some 0x2D :=
          fun _ hminus => hb (Option.some.inj hminus)
        rw [decimal_of_ne (hne bs)] at h
        rw [List.cons_append, decimal_of_ne (hne _)]
        exact keeps_unsignedParts hends false (b :: bs) number rest h

end Doc

end Json

end RunReport
