import Mathlib.Algebra.GroupWithZero.Nat
import RunReport.Proofs.Markup
import RunReport.Template.Basic

/-!
# Filling in a Template

When a template can be filled in, and which tags the page then has.

A page is made of the template's own texts and of what is put in between them. Rendering joins all
of it to one text and forgets which is which. `ownTags` goes the same way through the template, with
the same choices and the same rounds of its loops, and counts the tags of its own texts only.
`Fits` goes the same way once more and asks of everything that is put in that it is bound and has no
angle bracket.

`renderNodes_of_fits` brings the three together: if everything fits there is a page, and all its
tags are the template's own. The condition is on the texts of the template as well, since a piece of
it that ends in the middle of a tag would let the next piece finish the tag; the templates have no
such texts, which can be decided for each of them once and for all.

## Main definitions

* `Value.Inert`: A value that is put in without an angle bracket.
* `Node.ownTags`, `ownTags`: The tags of the texts that nodes contribute themselves.
* `Node.Fits`, `Fits`: Whatever is put in on the way is bound and inert.
* `operandOf`: The operand of a path of names.
* `Node.texts`, `texts`: All texts of nodes, whether or not they come to the page.
* `OwnsTags`: All tags of a page are the template's own.

## Theorems

* `renderNodes_of_fits`: Nodes that fit can be filled in, and all tags are their own.
* `render_of_fits`: The same for a template.
* `fits_append`: Nodes in two parts.
* `fits_plain`, `fits_escaped`: A value that is put in as it is must be inert, an escaped one only
  bound.
* `fits_whenTrue`, `fits_whenAbove`, `fits_forEach`: What has to fit in choices and loops.
-/

namespace RunReport

namespace Template

open Markup

/-- A value has no angle bracket when it is put in. -/
def Value.Inert (v : Value) : Prop :=
  Markup.Inert v.asText

/-- The value that comes out of some filters. -/
def filtered (env : Bindings) (o : Operand) (filters : List Filter) : Option Value :=
  filters.foldl (fun v f => v.bind f.apply) (o.value? env)

/-- The items that a loop goes over. -/
def itemsOf (env : Bindings) (range : Operand) : Option (List Value) :=
  (range.value? env).bind Value.items?

mutual

/-- How many tags a node contributes by its own texts. -/
def Node.ownTags (tag : List Char) (env : Bindings) : Node → Nat
  | .text s => occurrences tag s.toList
  | .output _ _ => 0
  | .choice c yes no =>
    match c.holds? env with
    | none => 0
    | some true => ownTags tag env yes
    | some false => ownTags tag env no
  | .each name range body =>
    match itemsOf env range with
    | none => 0
    | some items => (items.map fun v => ownTags tag ((name, v) :: env) body).sum

/-- How many tags nodes contribute by their own texts. -/
def ownTags (tag : List Char) (env : Bindings) : List Node → Nat
  | [] => 0
  | n :: ns => n.ownTags tag env + ownTags tag env ns

end

mutual

/-- Whatever a node puts in is bound and has no angle bracket. -/
def Node.Fits (env : Bindings) : Node → Prop
  | .text _ => True
  | .output o filters => (filtered env o filters).elim False Value.Inert
  | .choice c yes no =>
    match c.holds? env with
    | none => False
    | some true => Fits env yes
    | some false => Fits env no
  | .each name range body =>
    match itemsOf env range with
    | none => False
    | some items => ∀ v ∈ items, Fits ((name, v) :: env) body

/-- Whatever nodes put in is bound and has no angle bracket. -/
def Fits (env : Bindings) : List Node → Prop
  | [] => True
  | n :: ns => n.Fits env ∧ Fits env ns

end

mutual

/-- The texts of a node. -/
def Node.texts : Node → List String
  | .text s => [s]
  | .output _ _ => []
  | .choice _ yes no => texts yes ++ texts no
  | .each _ _ body => texts body

/-- The texts of nodes. -/
def texts : List Node → List String
  | [] => []
  | n :: ns => n.texts ++ texts ns

end

/-- All tags of a page stand in the texts of its template: for every tag that none of these texts
    leaves unfinished, the page has as many as the texts that were put into it. -/
def OwnsTags (t : Template) (env : Bindings) (page : String) : Prop :=
  ∀ tag, (∀ s ∈ texts t.nodes, Whole ('<' :: tag) s.toList) →
    occurrences ('<' :: tag) page.toList = ownTags ('<' :: tag) env t.nodes

/-! ### Pages from fitting nodes -/

/-- A page that is there, is whole and has so many tags. -/
def Filled (tag : List Char) (k : Nat) (page : Option String) : Prop :=
  ∃ s, page = some s ∧ Whole ('<' :: tag) s.toList ∧ occurrences ('<' :: tag) s.toList = k

theorem filled_empty (tag : List Char) : Filled tag 0 (some "") :=
  ⟨"", rfl, whole_of_inert tag "" (by decide), rfl⟩

/-- One page after another has the tags of both. -/
theorem filled_append (tag : List Char) (j k : Nat) (a : String) (page : Option String)
    (ha : Filled tag j (some a)) (hb : Filled tag k page) :
    Filled tag (j + k) (page.map (a ++ ·)) := by
  rcases ha with ⟨_, ⟨⟩, hawhole, hacount⟩
  rcases hb with ⟨b, rfl, hbwhole, hbcount⟩
  refine ⟨a ++ b, rfl, ?_, ?_⟩
  · rw [String.toList_append]
    exact whole_append _ _ _ hawhole hbwhole
  · rw [String.toList_append, occurrences_append _ _ _ hawhole, hacount, hbcount]

/-- The rounds of a loop, one after another, have the tags of all of them. -/
theorem filled_join (tag : List Char) (f : Value → Option String) (k : Value → Nat)
    (items : List Value) (h : ∀ v ∈ items, Filled tag (k v) (f v)) :
    Filled tag (items.map k).sum ((items.mapM f).map String.join) := by
  induction items with
  | nil => exact filled_empty tag
  | cons v vs ih =>
      have hv := h v List.mem_cons_self
      have hvs := ih fun x hx => h x (List.mem_cons_of_mem v hx)
      rcases hv with ⟨a, ha, hpage⟩
      -- A tag could begin in one item and end in the next, but whole texts have no such tags.
      have hsum := filled_append tag _ _ a _ ⟨a, rfl, hpage⟩ hvs
      rw [List.map_cons, List.sum_cons, List.mapM_cons, ha]
      cases hrest : vs.mapM f with
      | none =>
          rw [hrest] at hsum
          exact hsum
      | some rest =>
          rw [hrest] at hsum
          simpa using hsum

mutual

/-- A node that fits can be filled in, and all tags are its own. -/
theorem Node.render_of_fits (tag : List Char) (env : Bindings) (n : Node)
    (hwhole : ∀ s ∈ n.texts, Whole ('<' :: tag) s.toList) (hfits : n.Fits env) :
    Filled tag (n.ownTags ('<' :: tag) env) (n.render env) := by
  match n with
  | .text s =>
      rw [Node.ownTags, Node.render]
      exact ⟨s, rfl, hwhole s (List.mem_singleton.mpr rfl), rfl⟩
  | .output o filters =>
      rw [Node.Fits] at hfits
      rw [Node.ownTags, Node.render, ← filtered]
      cases hv : filtered env o filters with
      | none =>
          rw [hv] at hfits
          exact hfits.elim
      | some v =>
          rw [hv] at hfits
          exact ⟨v.asText, rfl, whole_of_inert tag _ hfits, occurrences_of_inert tag _ hfits⟩
  | .choice c yes no =>
      rw [Node.Fits] at hfits
      rw [Node.ownTags, Node.render]
      cases hc : c.holds? env with
      | none =>
          rw [hc] at hfits
          exact hfits.elim
      | some b =>
          rw [hc] at hfits
          cases b with
          | true =>
              exact renderNodes_of_fits tag env yes
                (fun s hs => hwhole s (List.mem_append_left _ hs)) hfits
          | false =>
              exact renderNodes_of_fits tag env no
                (fun s hs => hwhole s (List.mem_append_right _ hs)) hfits
  | .each name range body =>
      rw [Node.Fits] at hfits
      rw [Node.ownTags, Node.render, ← itemsOf]
      cases hitems : itemsOf env range with
      | none =>
          rw [hitems] at hfits
          exact hfits.elim
      | some items =>
          rw [hitems] at hfits
          exact filled_join tag _ _ items fun v hv =>
            renderNodes_of_fits tag ((name, v) :: env) body hwhole (hfits v hv)

/-- Nodes that fit can be filled in, and all tags are their own. -/
theorem renderNodes_of_fits (tag : List Char) (env : Bindings) (ns : List Node)
    (hwhole : ∀ s ∈ texts ns, Whole ('<' :: tag) s.toList) (hfits : Fits env ns) :
    Filled tag (ownTags ('<' :: tag) env ns) (renderNodes env ns) := by
  match ns with
  | [] =>
      rw [ownTags, renderNodes]
      exact filled_empty tag
  | n :: ns =>
      rw [Fits] at hfits
      have hn := Node.render_of_fits tag env n
        (fun s hs => hwhole s (List.mem_append_left _ hs)) hfits.1
      have hns := renderNodes_of_fits tag env ns
        (fun s hs => hwhole s (List.mem_append_right _ hs)) hfits.2
      rw [ownTags, renderNodes]
      rcases hn with ⟨a, ha, hpage⟩
      rw [ha]
      exact filled_append tag _ _ a _ ⟨a, rfl, hpage⟩ hns

end

/-- The text `<` begins in no piece without ending there. -/
theorem whole_bracket (s : List Char) : Whole ['<'] s := by
  intro t _ ht
  rcases List.prefix_cons_iff.mp ht with rfl | ⟨u, rfl, hu⟩
  · exact Or.inl rfl
  · rw [List.prefix_nil.mp hu]
    exact Or.inr rfl

/-- A template that fits can be filled in, and all tags of the page are its own. -/
theorem render_of_fits (t : Template) (env : Bindings) (hfits : Fits env t.nodes) :
    ∃ page, t.render env = some page ∧ t.OwnsTags env page := by
  rcases renderNodes_of_fits [] env t.nodes (fun s _ => whole_bracket s.toList) hfits with
    ⟨page, hpage, -, -⟩
  refine ⟨page, hpage, fun tag hwhole => ?_⟩
  rcases renderNodes_of_fits tag env t.nodes hwhole hfits with ⟨page', hpage', -, hcount⟩
  rw [Option.some.inj (hpage.symm.trans hpage')]
  exact hcount

/-! ### What has to fit -/

theorem fits_nil (env : Bindings) : Fits env [] ↔ True := by
  rw [Fits]

theorem fits_cons (env : Bindings) (n : Node) (ns : List Node) :
    Fits env (n :: ns) ↔ n.Fits env ∧ Fits env ns := by
  rw [Fits]

theorem fits_append (env : Bindings) (as bs : List Node) :
    Fits env (as ++ bs) ↔ Fits env as ∧ Fits env bs := by
  induction as with
  | nil => simp only [List.nil_append, fits_nil, true_and]
  | cons n ns ih => simp only [List.cons_append, fits_cons, ih, and_assoc]

theorem fits_text (env : Bindings) (s : String) : (Node.text s).Fits env ↔ True := by
  rw [Node.Fits]

/-- The operand of a path of names. -/
def operandOf (path : List String) : Operand :=
  .path (path.headD "") path.tail

/-- A value that is put in as it is must be bound and inert. -/
theorem fits_plain (env : Bindings) (path : List String) :
    (plain path).Fits env ↔ ((operandOf path).value? env).elim False Value.Inert := by
  rw [plain, Node.Fits]
  rfl

/-- An escaped value only has to be bound. -/
theorem fits_escaped (env : Bindings) (path : List String) :
    (escaped path).Fits env ↔ ((operandOf path).value? env).isSome := by
  rw [escaped, Node.Fits]
  change (((operandOf path).value? env).bind Filter.escape.apply).elim False Value.Inert ↔ _
  cases (operandOf path).value? env with
  | none => exact ⟨False.elim, fun h => absurd h (by decide)⟩
  | some v =>
      refine ⟨fun _ => rfl, fun _ => ?_⟩
      cases v with
      | nil => exact (by decide : Markup.Inert "")
      | bool b => exact inert_escape _
      | int i => exact inert_escape _
      | text s => exact inert_escape _
      | list items => exact inert_escape _
      | object members => exact inert_escape _

/-- If both sides of a choice fit its outcome need not be known, but it must have one. -/
theorem fits_choice (env : Bindings) (c : Condition) (yes no : List Node)
    (hc : (c.holds? env).isSome) (hyes : Fits env yes) (hno : Fits env no) :
    (Node.choice c yes no).Fits env := by
  rcases Option.isSome_iff_exists.mp hc with ⟨b, hb⟩
  rw [Node.Fits, hb]
  cases b with
  | true => exact hyes
  | false => exact hno

theorem fits_whenTrue (env : Bindings) (path : List String) (yes no : List Node)
    (hyes : Fits env yes) (hno : Fits env no) : (whenTrue path yes no).Fits env :=
  fits_choice env _ yes no rfl hyes hno

/-- Any two values that are bound can be compared. -/
theorem holds?_isGreater (env : Bindings) (a b : Operand) (ha : (a.value? env).isSome)
    (hb : (b.value? env).isSome) : ((Condition.isGreater a b).holds? env).isSome := by
  rcases Option.isSome_iff_exists.mp ha with ⟨x, hx⟩
  rcases Option.isSome_iff_exists.mp hb with ⟨y, hy⟩
  rw [Condition.holds?, hx, hy]
  cases x <;> cases y <;> rfl

/-- A value that is compared has to be bound as well. -/
theorem fits_whenAbove (env : Bindings) (path : List String) (bound : Int) (yes : List Node)
    (hvalue : ((operandOf path).value? env).isSome) (hyes : Fits env yes) :
    (whenAbove path bound yes).Fits env :=
  fits_choice env _ yes [] (holds?_isGreater env _ _ hvalue rfl) hyes ((fits_nil env).mpr trivial)

/-- A loop over a list fits if its body fits in every round. -/
theorem fits_forEach (env : Bindings) (name : String) (path : List String) (body : List Node)
    (items : List Value) (hitems : (operandOf path).value? env = some (.list items))
    (hbody : ∀ v ∈ items, Fits ((name, v) :: env) body) : (forEach name path body).Fits env := by
  have hrange : itemsOf env (operandOf path) = some items := by
    rw [itemsOf, hitems]
    rfl
  rw [forEach, Node.Fits, ← operandOf, hrange]
  exact hbody

end Template

end RunReport
