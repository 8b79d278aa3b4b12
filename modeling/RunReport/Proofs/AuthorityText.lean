import RunReport.Proofs.HostText
import RunReport.Url.Parser

/-!
# Authorities Read Back

An authority that was read is written as a text that is read as the same authority.

The text is cut in three places. The last at sign ends the user name and the password, the first
colon among these ends the user name, and the first colon outside of brackets ends the host. Each
cut is made where the text was put together: a user name has no colon and no at sign, since both are
written by their bytes, and a host has no at sign, and colons only in brackets.

Not every authority can be written so. One without a host has no user name, no password and no port,
and the usual port of a scheme is left out. `Settled` has what is known of an authority that was
read.

## Main definitions

* `Authority.Settled`: An authority as it is when it was read.
* `Authority.userText`, `Authority.portText`: What stands before and behind the host.

## Theorems

* `hostOf_spec`, `readPort_spec`, `settled_readAuthority`: What is read is settled.
* `splitHost_shaped`, `readCredentials_userText`, `readPort_portText`: The cuts of the text.
* `inside_text`: The characters of an authority.
* `readAuthority_text`: A settled authority is read from its text.
-/

namespace RunReport

open Scheme (Kind)

/-- An authority as it is when it was read. -/
structure Authority.Settled [HostLibrary] (kind : Kind) (scheme : String) (a : Authority) :
    Prop where
  user : Percent.Plain Percent.inUser a.user.toList
  password : Percent.Plain Percent.inUser a.password.toList
  host : Url.hostOf kind a.host.toList = .ok a.host.toList
  shaped : Host.Shaped a.host.toList
  named : kind = .common → a.host.toList ≠ []
  bare : a.host.toList = [] → a.user = "" ∧ a.password = "" ∧ a.port = none
  port : ∀ n ∈ a.port, n < 65536 ∧ Scheme.usualPort? scheme ≠ some n

namespace Url

/-! ### What is read is settled -/

/-- A port that was read is small enough and not the usual one. -/
theorem readPort_spec (scheme : String) (cs : List Char) (port : Option Nat)
    (h : readPort scheme cs = .ok port) :
    (∀ n ∈ port, n < 65536 ∧ Scheme.usualPort? scheme ≠ some n) ∧ (cs = [] → port = none) := by
  -- A port is left out if there is none, if it has no digits, and if it is the usual one.
  have hnone : ∀ n ∈ (none : Option Nat), n < 65536 ∧ Scheme.usualPort? scheme ≠ some n :=
    fun n hn => absurd hn (by simp)
  unfold readPort at h
  split at h
  · refine ⟨?_, fun hnil => absurd hnil (by simp)⟩
    split at h
    · rw [← Except.ok.inj h]
      exact hnone
    split at h
    · cases h
    · next n hn =>
        rw [← Except.ok.inj h]
        split
        · exact hnone
        · next hport =>
            intro m hm
            rw [← Option.some.inj hm]
            exact ⟨of_decide_eq_true (Option.filter_eq_some_iff.mp hn).2, hport⟩
  · rw [← Except.ok.inj h]
    exact ⟨hnone, fun _ => rfl⟩

section Reading

variable [HostLibrary]

/-- A host that was read is read as itself. -/
theorem hostOf_spec (kind : Kind) (cs host : List Char) (h : hostOf kind cs = .ok host) :
    hostOf kind host = .ok host ∧ Host.Shaped host ∧ (kind = .common → host ≠ []) := by
  unfold hostOf at h ⊢
  by_cases hkind : kind = .common
  · rw [if_pos hkind] at h ⊢
    rcases Host.read_spec cs host h with ⟨hread, hne, hshaped⟩
    exact ⟨hread, hshaped, fun _ => hne⟩
  · rw [if_neg hkind] at h ⊢
    rcases Host.readOpaque_spec cs host h with ⟨hread, hshaped⟩
    exact ⟨hread, hshaped, fun hcommon => absurd hcommon hkind⟩

/-- What is read from the parts of an authority is settled. -/
theorem settled_authorityOf (kind : Kind) (scheme : String) (before : Option (List Char))
    (rest : List Char) (isFollowed : Bool) (a : Authority)
    (h : authorityOf kind scheme before rest isFollowed = .ok a) : a.Settled kind scheme := by
  have hsigns : Percent.Plain Percent.inUser Percent.signs := by
    decide +kernel
  unfold authorityOf at h
  generalize splitHost false rest = parts at h
  rcases parts with ⟨hostText, portText⟩
  simp only at h
  split at h
  · cases h
  split at h
  · cases h
  -- Each check that was passed leaves a fact about the authority.
  rcases ok_of_bind h with ⟨host, hhost, hrest⟩
  split at hrest
  · cases hrest
  next hport =>
  rcases ok_of_bind hrest with ⟨port, hread, hlast⟩
  rcases hostOf_spec kind hostText host hhost with ⟨hself, hshaped, hnamed⟩
  rcases readPort_spec scheme portText port hread with ⟨hbounds, hnone⟩
  split at hlast
  · cases hlast
  next hbare =>
  rw [← Except.ok.inj hlast]
  have hplain : ∀ cs, Percent.Plain Percent.inUser
      (String.ofList (Percent.encode Percent.inUser cs)).toList := by
    intro cs
    rw [String.toList_ofList]
    exact Percent.plain_encode _ cs hsigns
  constructor
  case user => exact hplain _
  case password => exact hplain _
  case port => exact hbounds
  all_goals simp only [String.toList_ofList]
  case host => exact hself
  case shaped => exact hshaped
  case named => exact hnamed
  case bare =>
    intro hnil
    -- Two checks refuse an authority without a host: one for its port, one for its user.
    simp only [hnil, List.isEmpty_nil, Bool.true_and, Bool.not_eq_true, Bool.not_eq_false',
      Bool.or_eq_false_iff, decide_eq_false_iff_not, not_not] at hport hbare
    exact ⟨hbare.1, hbare.2, hnone (List.isEmpty_iff.mp hport)⟩

theorem settled_readAuthority (kind : Kind) (scheme : String) (cs : List Char) (isFollowed : Bool)
    (a : Authority) (h : readAuthority kind scheme cs isFollowed = .ok a) :
    a.Settled kind scheme := by
  unfold readAuthority at h
  split at h
  · exact settled_authorityOf kind scheme _ _ isFollowed a h
  · exact settled_authorityOf kind scheme _ _ isFollowed a h

end Reading

/-! ### The cuts of the text -/

/-- A character that does not end the host is its next one. -/
theorem splitHost_cons (inBrackets after : Bool) (c : Char) (cs : List Char)
    (h : (c = ':' && !inBrackets) = false)
    (hafter : (if c = '[' then true else if c = ']' then false else inBrackets) = after) :
    splitHost inBrackets (c :: cs)
      = (c :: (splitHost after cs).1, (splitHost after cs).2) := by
  rw [splitHost, h, ← hafter]
  rfl

section Hosts

variable (port : List Char) (hport : port = [] ∨ port.head? = some ':')

include hport

theorem splitHost_port : splitHost false port = ([], port) := by
  cases port with
  | nil => rfl
  | cons c port =>
      rcases hport with hnil | hcolon
      · cases hnil
      · rw [Option.some.inj hcolon]
        rfl

/-- Outside of brackets there are no colons in a host. -/
theorem splitHost_outside (host : List Char) (h : ∀ c ∈ host, c ∉ [':', '[', '|']) :
    splitHost false (host ++ port) = (host, port) := by
  induction host with
  | nil => exact splitHost_port port hport
  | cons c host ih =>
      rw [List.forall_mem_cons] at h
      have hcolon : c ≠ ':' := fun hc => h.1 (by simp [hc])
      have hbracket : c ≠ '[' := fun hc => h.1 (by simp [hc])
      rw [List.cons_append, splitHost_cons false false c _ (by simp [hcolon])
        (by rw [if_neg hbracket, ite_self]), ih h.2]

/-- In brackets colons are part of the host. -/
theorem splitHost_inside (inner : List Char) (h : ']' ∉ inner) :
    splitHost true (inner ++ ']' :: port) = (inner ++ [']'], port) := by
  induction inner with
  | nil =>
      rw [List.nil_append, splitHost_cons true false ']' _ (by decide) (by decide),
        splitHost_port port hport]
      rfl
  | cons c inner ih =>
      rw [List.mem_cons, not_or] at h
      rw [List.cons_append, splitHost_cons true true c _ (Bool.and_false _)
        (by rw [if_neg (Ne.symm h.1), ite_self]), ih h.2]
      rfl

/-- A host ends before its port. -/
theorem splitHost_shaped (host : List Char) (h : Host.Shaped host) :
    splitHost false (host ++ port) = (host, port) := by
  rcases h.colons with hnone | ⟨inner, rfl, hinner⟩
  · exact splitHost_outside port hport host hnone
  · rw [List.cons_append, List.append_assoc,
      splitHost_cons false true '[' _ (by decide) (by decide), List.singleton_append,
      splitHost_inside port hport inner hinner]

end Hosts

end Url

namespace Authority

/-- User name and password as they stand before the at sign. -/
def userText (a : Authority) : List Char :=
  a.user.toList ++ (if a.password = "" then [] else ':' :: a.password.toList)

/-- What stands behind the host. -/
def portText (a : Authority) : List Char :=
  match a.port with
  | some n => ':' :: Numeral.decimal n
  | none => []

theorem toList_credentials (a : Authority) :
    a.credentials.toList = if a.userText = [] then [] else a.userText ++ ['@'] := by
  have huser : a.userText
      = (a.user ++ (if a.password = "" then "" else ":" ++ a.password)).toList := by
    rw [userText, String.toList_append]
    split
    · rfl
    · rw [String.toList_append]
      rfl
  unfold credentials
  simp only [huser, String.toList_eq_nil_iff]
  generalize a.user ++ (if a.password = "" then "" else ":" ++ a.password) = user
  by_cases hnone : user = ""
  · rw [if_pos hnone, if_pos hnone]
    rfl
  · rw [if_neg hnone, if_neg hnone, String.toList_append]
    rfl

theorem toList_text (a : Authority) :
    a.text.toList = a.credentials.toList ++ (a.host.toList ++ a.portText) := by
  unfold text portText
  cases a.port with
  | none => simp only [String.append_empty, String.toList_append, List.append_nil]
  | some n =>
      simp only [String.toList_append, Numeral.text, String.toList_ofList, List.append_assoc]
      rfl

theorem portText_eq_nil_or (a : Authority) : a.portText = [] ∨ a.portText.head? = some ':' := by
  unfold portText
  cases a.port with
  | none => exact Or.inl rfl
  | some n => exact Or.inr rfl

theorem inside_portText (a : Authority) : ∀ c ∈ a.portText, Host.Inside c := by
  unfold portText
  cases a.port with
  | none => exact fun c hc => absurd hc List.not_mem_nil
  | some n =>
      rw [List.forall_mem_cons]
      refine ⟨by decide, fun c hc => ?_⟩
      have hdigit : c.isDigit ∨ c = '.' := Or.inl (Numeral.isDigit_of_mem_decimal n c hc)
      exact (Host.inside_of_name c (Host.deniedInName_of_number c hdigit)).1

/-- What a user name and a password have kept means nothing elsewhere in a URL. -/
theorem inside_of_plain (cs : List Char) (h : Percent.Plain Percent.inUser cs) :
    ∀ c ∈ cs, Host.Inside c := by
  intro c hc
  refine ⟨Percent.code_of_plain _ c rfl (h c hc), fun hmem => ?_⟩
  have hneeds : ∀ c ∈ ['/', '\\', '?', '#', '@'], Percent.inUser c = true :=
    List.all_iff_forall_prop.mp (by decide)
  exact Percent.not_mem_of_plain _ cs c (hneeds c hmem) h hc

section Settled

variable [HostLibrary] {kind : Kind} {scheme : String} {a : Authority}
  (h : a.Settled kind scheme)

include h

/-- The name and the password are read from their text. -/
theorem readCredentials_userText : Url.readCredentials a.userText = (a.user, a.password) := by
  have hcolon := Percent.not_mem_of_plain _ _ ':' rfl h.user
  have huser : String.ofList (Percent.encode Percent.inUser a.user.toList) = a.user := by
    rw [Percent.encode_of_plain _ _ h.user, String.ofList_toList]
  have hpassword :
      String.ofList (Percent.encode Percent.inUser a.password.toList) = a.password := by
    rw [Percent.encode_of_plain _ _ h.password, String.ofList_toList]
  unfold Url.readCredentials userText
  by_cases hnone : a.password = ""
  · rw [hnone] at hpassword ⊢
    simp only [if_true, List.append_nil, takeWhile_ne_self _ ':' hcolon, huser,
      List.drop_eq_nil_of_le (Nat.le_succ _)]
    rfl
  · simp only [if_neg hnone, takeWhile_ne _ _ ':' hcolon, huser, ← List.drop_drop, List.drop_left,
      List.drop_succ_cons, List.drop_zero, hpassword]

/-- A port is read from its text. -/
theorem readPort_portText : Url.readPort scheme a.portText = .ok a.port := by
  unfold portText
  cases hport : a.port with
  | none => rfl
  | some n =>
      rcases h.port n hport with ⟨hbound, husual⟩
      have hne : (Numeral.decimal n).isEmpty = false :=
        List.isEmpty_eq_false_iff.mpr (Numeral.decimal_ne_nil n)
      rw [Url.readPort, hne, Numeral.valueOf?_decimal, Option.filter_some,
        if_pos (decide_eq_true hbound)]
      simp only [Bool.false_eq_true, if_false, if_neg husual]

/-- The host and the port have no at sign, and nothing that ends an authority. -/
theorem inside_hostPort : ∀ c ∈ a.host.toList ++ a.portText, Host.Inside c :=
  List.forall_mem_append.mpr ⟨h.shaped.inside, inside_portText a⟩

/-- Nothing in a settled authority ends it. -/
theorem inside_text : ∀ c ∈ a.text.toList, 0x20 < c.toNat ∧ Url.endsAuthority kind c = false := by
  -- What may stand inside of an authority does not end it, for any kind of address.
  have hsign : ∀ c, Host.Inside c → 0x20 < c.toNat ∧ Url.endsAuthority kind c = false := by
    intro c hc
    refine ⟨hc.1, ?_⟩
    have hne := hc.2
    simp only [List.mem_cons, List.not_mem_nil, or_false, not_or] at hne
    simp [Url.endsAuthority, Url.isSlash, hne]
  have huser : ∀ c ∈ a.userText, Host.Inside c := by
    rw [userText, List.forall_mem_append]
    refine ⟨inside_of_plain _ h.user, ?_⟩
    split
    · exact fun c hc => absurd hc List.not_mem_nil
    · exact List.forall_mem_cons.mpr ⟨by decide, inside_of_plain _ h.password⟩
  rw [toList_text, toList_credentials, List.forall_mem_append]
  refine ⟨?_, fun c hc => hsign c (inside_hostPort h c hc)⟩
  split
  · exact fun c hc => absurd hc List.not_mem_nil
  · rw [List.forall_mem_append, List.forall_mem_singleton]
    exact ⟨fun c hc => hsign c (huser c hc), by cases kind <;> decide⟩

/-- The parts of a settled authority are read as it. -/
theorem authorityOf_text (before : Option (List Char)) (isFollowed : Bool)
    (hbefore : before = none ∧ a.userText = [] ∨ before = some a.userText ∧ a.userText ≠ []) :
    Url.authorityOf kind scheme before (a.host.toList ++ a.portText) isFollowed = .ok a := by
  have hcredentials : Url.readCredentials (before.getD []) = (a.user, a.password) := by
    rw [← readCredentials_userText h]
    rcases hbefore with ⟨rfl, huser⟩ | ⟨rfl, -⟩
    · rw [huser, Option.getD_none]
    · rw [Option.getD_some]
  -- No check fails now, since each of them was passed when the authority was read.
  have hlone : decide (before = some []) = false := by
    rw [decide_eq_false_iff_not]
    rcases hbefore with ⟨rfl, -⟩ | ⟨rfl, hne⟩
    · exact nofun
    · exact fun heq => hne (Option.some.inj heq)
  have hnamed : (decide (kind = .common) && a.host.toList.isEmpty) = false := by
    rw [Bool.and_eq_false_iff, decide_eq_false_iff_not, List.isEmpty_eq_false_iff]
    exact or_iff_not_imp_left.mpr fun hkind => h.named (not_not.mp hkind)
  have hport : (a.host.toList.isEmpty && !a.portText.isEmpty) = false := by
    rw [Bool.and_eq_false_iff, Bool.not_eq_false', List.isEmpty_eq_false_iff, List.isEmpty_iff]
    refine or_iff_not_imp_left.mpr fun hhost => ?_
    rw [portText, (h.bare (not_not.mp hhost)).2.2]
  have hbare : (a.host.toList.isEmpty && (decide (a.user ≠ "") || decide (a.password ≠ "")))
      = false := by
    rw [Bool.and_eq_false_iff, List.isEmpty_eq_false_iff]
    refine or_iff_not_imp_left.mpr fun hhost => ?_
    rcases h.bare (not_not.mp hhost) with ⟨huser, hpassword, -⟩
    rw [huser, hpassword]
    rfl
  unfold Url.authorityOf
  rw [hcredentials, Url.splitHost_shaped a.portText (portText_eq_nil_or a) _ h.shaped]
  simp only [hlone, hnamed, h.host, bind, Except.bind, hport, readPort_portText h, hbare,
    Bool.false_and, Bool.false_eq_true, if_false, String.ofList_toList]

/-- A settled authority is read from its text. -/
theorem readAuthority_text (isFollowed : Bool) :
    Url.readAuthority kind scheme a.text.toList isFollowed = .ok a := by
  have hat : '@' ∉ a.host.toList ++ a.portText := fun hmem =>
    (inside_hostPort h '@' hmem).2 (by decide)
  rw [Url.readAuthority, toList_text, toList_credentials]
  by_cases huser : a.userText = []
  · rw [if_pos huser, List.nil_append, (splitLast_eq_none_iff '@' _).mpr hat]
    exact authorityOf_text h none isFollowed (Or.inl ⟨rfl, huser⟩)
  · rw [if_neg huser, List.append_assoc, List.singleton_append,
      splitLast_append '@' a.userText _ hat]
    exact authorityOf_text h _ isFollowed (Or.inr ⟨rfl, huser⟩)

end Settled

end Authority

end RunReport
