import RunReport.Proofs.Filling

/-!
# Tags Known in Advance

How many tags a template contributes, told from the template alone.

`ownTags` depends on what the names are bound to, so for a page of any records it cannot be
computed. Most of a template contributes the same number of tags whatever it is filled in with. A
value that is put in contributes none, and a choice between two parts that have the same number
contributes this number. Only the loops of a template and a few of its choices matter.

`foretold?` counts the tags of nodes with the outcome of these choices given, and gives up where it
would have to know more. It mentions no bindings, so what it says of a template can be decided.
`ownTags_of_straight` then leaves the loops to be counted round by round.

## Main definitions

* `Known`: Members of the bindings that are known to count as true or not.
* `Known.Holds`: What is known is so.
* `Node.foretold?`, `foretold?`: The tags of nodes, if they can be told in advance.
* `loops`, `straight`: The loops among some nodes, and the other nodes.

## Theorems

* `holds_nil`, `holds_cons`: Members that are known.
* `sum_rounds`: Rounds with the same number of tags.
* `ownTags_of_foretold`: Nodes contribute as many tags as foretold.
* `ownTags_of_straight`: The tags of nodes are those foretold of all but the loops, and those of
  the loops.
* `ownTags_forEach`: The tags of a loop are those of its rounds.
-/

namespace RunReport

namespace Template

open Markup

/-- Paths of members, and whether their values count as true. -/
abbrev Known := List (List String × Bool)

/-- The outcome of a condition, if it is known. -/
def Condition.known? (known : Known) : Condition → Option Bool
  | .isTrue (.path name members) => known.lookup (name :: members)
  | _ => none

/-- What is known of some bindings is so. -/
def Known.Holds (known : Known) (env : Bindings) : Prop :=
  ∀ c b, Condition.known? known c = some b → c.holds? env = some b

mutual

/-- How many tags a node contributes, if this can be told in advance. In the rounds of a loop names
    are bound anew, so nothing is known there, and how many rounds there are is not known either. -/
def Node.foretold? (tag : List Char) (known : Known) : Node → Option Nat
  | .text s => some (occurrences tag s.toList)
  | .output _ _ => some 0
  | .choice c yes no =>
    match c.known? known with
    | some true => foretold? tag known yes
    | some false => foretold? tag known no
    | none =>
      if foretold? tag known yes = foretold? tag known no then foretold? tag known yes else none
  | .each _ _ body => (foretold? tag [] body).filter (· = 0)

/-- How many tags nodes contribute, if this can be told in advance. -/
def foretold? (tag : List Char) (known : Known) : List Node → Option Nat
  | [] => some 0
  | n :: ns =>
    match n.foretold? tag known, foretold? tag known ns with
    | some j, some k => some (j + k)
    | _, _ => none

end

/-- Whether a node is a loop. -/
def Node.isLoop : Node → Bool
  | .each _ _ _ => true
  | _ => false

/-- The loops among some nodes. -/
def loops (ns : List Node) : List Node :=
  ns.filter Node.isLoop

/-- The nodes that are not loops. -/
def straight (ns : List Node) : List Node :=
  ns.filter (!·.isLoop)

/-! ### What is known -/

theorem holds_nil (env : Bindings) : Known.Holds [] env := by
  intro c b h
  unfold Condition.known? at h
  split at h <;> cases h

/-- One more member is known if its value is known to count as true or not. -/
theorem holds_cons (env : Bindings) (known : Known) (name : String) (members : List String)
    (b : Bool) (hb : (((operandOf (name :: members)).value? env).getD .nil).isTrue = b)
    (hknown : known.Holds env) : Known.Holds ((name :: members, b) :: known) env := by
  intro c x h
  unfold Condition.known? at h
  split at h
  · next n ms =>
      rw [List.lookup_cons] at h
      split at h
      · next heq =>
          -- This is the member that is known anew.
          rw [beq_iff_eq, List.cons.injEq] at heq
          rw [heq.1, heq.2]
          exact (congrArg some hb).trans h
      · exact hknown _ x h
  · cases h

/-! ### As many as foretold -/

/-- If all rounds of a loop have the same number of tags, the loop has it once for each round. -/
theorem sum_rounds {α : Type} (f : α → Nat) (k : Nat) (items : List α)
    (h : ∀ v ∈ items, f v = k) : (items.map f).sum = items.length * k := by
  rw [List.map_congr_left h, List.map_const', List.sum_replicate_nat]

mutual

/-- A node contributes as many tags as foretold. -/
theorem Node.ownTags_of_foretold (tag : List Char) (known : Known) (env : Bindings)
    (hknown : known.Holds env) (n : Node) (k : Nat) (hfits : n.Fits env)
    (h : n.foretold? tag known = some k) : n.ownTags tag env = k := by
  match n with
  | .text s =>
      rw [Node.foretold?, Option.some.injEq] at h
      rw [Node.ownTags, h]
  | .output o filters =>
      rw [Node.foretold?, Option.some.injEq] at h
      rw [Node.ownTags, h]
  | .choice c yes no =>
      rw [Node.foretold?] at h
      rw [Node.Fits] at hfits
      rw [Node.ownTags]
      cases hholds : c.holds? env with
      | none =>
          rw [hholds] at hfits
          exact hfits.elim
      | some b =>
          rw [hholds] at hfits
          have hbranch : foretold? tag known (if b then yes else no) = some k := by
            cases hc : c.known? known with
            | some x =>
                have hx : x = b := Option.some.inj ((hknown c x hc).symm.trans hholds)
                subst hx
                rw [hc] at h
                cases x with
                | true => exact h
                | false => exact h
            | none =>
                -- Both branches have as many tags, so the outcome does not matter.
                rw [hc] at h
                simp only at h
                split at h
                · next heq =>
                    cases b with
                    | true => exact h
                    | false => exact heq ▸ h
                · cases h
          cases b with
          | true => exact ownTags_of_foretold tag known env hknown yes k hfits hbranch
          | false => exact ownTags_of_foretold tag known env hknown no k hfits hbranch
  | .each name range body =>
      rw [Node.foretold?, Option.filter_eq_some_iff, decide_eq_true_eq] at h
      rw [Node.Fits] at hfits
      rw [Node.ownTags]
      cases hitems : itemsOf env range with
      | none =>
          rw [hitems] at hfits
          exact hfits.elim
      | some items =>
          rw [hitems] at hfits
          have hround : ∀ v ∈ items, ownTags tag ((name, v) :: env) body = k := fun v hv =>
            ownTags_of_foretold tag [] _ (holds_nil _) body k (hfits v hv) h.1
          exact (sum_rounds _ k items hround).trans (by rw [h.2, Nat.mul_zero])

/-- Nodes contribute as many tags as foretold. -/
theorem ownTags_of_foretold (tag : List Char) (known : Known) (env : Bindings)
    (hknown : known.Holds env) (ns : List Node) (k : Nat) (hfits : Fits env ns)
    (h : foretold? tag known ns = some k) : ownTags tag env ns = k := by
  match ns with
  | [] =>
      rw [foretold?, Option.some.injEq] at h
      rw [ownTags, h]
  | n :: ns =>
      rw [foretold?] at h
      rw [Fits] at hfits
      rw [ownTags]
      split at h
      · next i j hi hj =>
          rw [Node.ownTags_of_foretold tag known env hknown n i hfits.1 hi,
            ownTags_of_foretold tag known env hknown ns j hfits.2 hj]
          exact Option.some.inj h
      · cases h

end

/-! ### Loops -/

/-- The tags of nodes are those of the loops and those of all others. -/
theorem ownTags_straight_add_loops (tag : List Char) (env : Bindings) (ns : List Node) :
    ownTags tag env (straight ns) + ownTags tag env (loops ns) = ownTags tag env ns := by
  induction ns with
  | nil => rfl
  | cons n ns ih =>
      unfold straight loops at ih ⊢
      rw [ownTags, ← ih]
      cases hn : n.isLoop with
      | true =>
          rw [List.filter_cons_of_neg (by simp [hn]), List.filter_cons_of_pos hn, ownTags]
          omega
      | false =>
          rw [List.filter_cons_of_pos (by simp [hn]), List.filter_cons_of_neg (by simp [hn]),
            ownTags]
          omega

theorem fits_straight (env : Bindings) (ns : List Node) (h : Fits env ns) :
    Fits env (straight ns) := by
  induction ns with
  | nil => exact h
  | cons n ns ih =>
      rw [fits_cons] at h
      unfold straight at ih ⊢
      rw [List.filter_cons]
      split
      · exact (fits_cons env n _).mpr ⟨h.1, ih h.2⟩
      · exact ih h.2

/-- The tags of nodes are those foretold of all but the loops, and those of the loops. -/
theorem ownTags_of_straight (tag : List Char) (known : Known) (env : Bindings)
    (hknown : known.Holds env) (ns : List Node) (k : Nat) (hfits : Fits env ns)
    (h : foretold? tag known (straight ns) = some k) :
    ownTags tag env ns = k + ownTags tag env (loops ns) := by
  rw [← ownTags_straight_add_loops,
    ownTags_of_foretold tag known env hknown _ k (fits_straight env ns hfits) h]

/-- The tags of a loop are those of its rounds. -/
theorem ownTags_forEach (tag : List Char) (env : Bindings) (name : String) (path : List String)
    (body : List Node) (items : List Value)
    (hitems : (operandOf path).value? env = some (.list items)) :
    (forEach name path body).ownTags tag env
      = (items.map fun v => ownTags tag ((name, v) :: env) body).sum := by
  have hrange : itemsOf env (operandOf path) = some items := by
    rw [itemsOf, hitems]
    rfl
  rw [forEach, Node.ownTags, ← operandOf, hrange]

end Template

end RunReport
