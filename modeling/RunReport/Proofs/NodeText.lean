import RunReport.Proofs.Filling

/-!
# What Nodes Write

The text that each node of a template adds to a page.

`Filling` counts what a template contributes to a page and leaves open what it is. Some statements
are about the text itself: which lines a table has, or what stands inside an element. For these the
nodes of a template are put beside the texts that they write, node by node (`Writes`), and the page
is these texts one after another (`renderNodes_of_writes`).

It is seldom the whole page that a statement is about. A template is cut into a front, a middle and
a back, and whatever the other two write, the text of the middle is in the page
(`contains_of_append`), and the text of each round is in that of its loop (`contains_round`).

## Main definitions

* `Writes`: Nodes beside the texts that they write.
* `Contains`: A text stands somewhere in a page.

## Theorems

* `renderNodes_of_writes`, `renderNodes_singleton`: Nodes write their texts one after another.
* `renderNodes_of_append`, `renderNodes_flatMap`: Nodes in two parts, and for each of some items.
* `render_text`, `render_plain`, `render_escaped`: A text, and a value that is put in.
* `render_whenTrue`, `render_whenFlag`, `render_whenMaybe`, `render_whenAbove`: A choice writes one
  of its sides.
* `render_forEach`: A loop writes its rounds one after another.
* `contains_of_append`, `contains_of_mem`: The text of some of the nodes.
* `contains_round`: The text of a round.
-/

namespace RunReport

namespace Template

/-! ### Node by node -/

/-- Nodes beside the texts that they write. -/
def Writes (env : Bindings) (ns : List Node) (texts : List String) : Prop :=
  List.Forall₂ (fun n s => n.render env = some s) ns texts

section Writes

variable (env : Bindings)

/-- Nodes write their texts one after another. -/
theorem renderNodes_of_writes (ns : List Node) (texts : List String) (h : Writes env ns texts) :
    renderNodes env ns = some (String.join texts) := by
  induction h with
  | nil => rw [renderNodes, String.join_nil]
  | cons hn _ ih =>
      rw [renderNodes, hn, ih, String.join_cons]
      rfl

/-- One node writes its text. -/
theorem renderNodes_singleton (n : Node) (s : String) (h : n.render env = some s) :
    renderNodes env [n] = some s := by
  rw [renderNodes, h, renderNodes]
  exact congrArg some String.append_empty

theorem writes_nil : Writes env [] [] :=
  List.Forall₂.nil

theorem writes_cons (n : Node) (ns : List Node) (s : String) (texts : List String) :
    Writes env (n :: ns) (s :: texts) ↔ n.render env = some s ∧ Writes env ns texts :=
  List.forall₂_cons

/-- Nodes in two parts write both texts. -/
theorem renderNodes_of_append (as bs : List Node) (a b : String)
    (ha : renderNodes env as = some a) (hb : renderNodes env bs = some b) :
    renderNodes env (as ++ bs) = some (a ++ b) := by
  induction as generalizing a with
  | nil =>
      rw [renderNodes] at ha
      rw [List.nil_append, hb, ← Option.some.inj ha, String.empty_append]
  | cons n as ih =>
      rw [renderNodes] at ha
      cases hn : n.render env with
      | none =>
          rw [hn] at ha
          cases ha
      | some s =>
          rw [hn] at ha
          rcases Option.map_eq_some_iff.mp ha with ⟨rest, hrest, rfl⟩
          rw [List.cons_append, renderNodes, hn, ih rest hrest, String.append_assoc]
          rfl

/-- Nodes for each of some items write the texts of the items. -/
theorem renderNodes_flatMap {α : Type} (f : α → List Node) (g : α → String) (xs : List α)
    (h : ∀ x ∈ xs, renderNodes env (f x) = some (g x)) :
    renderNodes env (xs.flatMap f) = some (String.join (xs.map g)) := by
  induction xs with
  | nil => rw [List.flatMap_nil, renderNodes, List.map_nil, String.join_nil]
  | cons x xs ih =>
      rw [List.flatMap_cons, List.map_cons, String.join_cons]
      exact renderNodes_of_append env _ _ _ _ (h x List.mem_cons_self)
        (ih fun y hy => h y (List.mem_cons_of_mem x hy))

/-- A text writes itself. -/
theorem render_text (s : String) : (Node.text s).render env = some s := by
  rw [Node.render]

/-- A value is put in as it is. -/
theorem render_plain (path : List String) (v : Value)
    (h : (operandOf path).value? env = some v) : (plain path).render env = some v.asText := by
  rw [plain, Node.render, ← operandOf, List.foldl_nil, h]
  rfl

/-- A text is put in with entities. -/
theorem render_escaped (path : List String) (s : String)
    (h : (operandOf path).value? env = some (.text s)) :
    (escaped path).render env = some (Markup.escape s) := by
  rw [escaped, Node.render, ← operandOf, h]
  rfl

/-- A choice writes the side that its value leads to. -/
theorem render_whenTrue (path : List String) (yes no : List Node) (v : Value) (a b : String)
    (h : (operandOf path).value? env = some v) (hyes : v.isTrue → renderNodes env yes = some a)
    (hno : v.isTrue = false → renderNodes env no = some b) :
    (whenTrue path yes no).render env = some (if v.isTrue then a else b) := by
  have hholds : (Condition.isTrue (operandOf path)).holds? env = some v.isTrue := by
    rw [Condition.holds?, h]
    rfl
  rw [whenTrue, Node.render, ← operandOf, hholds]
  cases hv : v.isTrue with
  | true =>
      rw [if_pos rfl]
      exact hyes hv
  | false =>
      rw [if_neg Bool.false_ne_true]
      exact hno hv

/-- A choice by a flag. -/
theorem render_whenFlag (path : List String) (yes no : List Node) (flag : Bool) (a b : String)
    (h : (operandOf path).value? env = some (.bool flag)) (hyes : renderNodes env yes = some a)
    (hno : renderNodes env no = some b) :
    (whenTrue path yes no).render env = some (if flag then a else b) :=
  render_whenTrue env path yes no (.bool flag) a b h (fun _ => hyes) fun _ => hno

/-- A choice by a text that may be missing. -/
theorem render_whenMaybe (path : List String) (yes no : List Node) (o : Option String)
    (f : String → String) (b : String) (h : (operandOf path).value? env = some (.maybe o))
    (hyes : ∀ s ∈ o, renderNodes env yes = some (f s)) (hno : renderNodes env no = some b) :
    (whenTrue path yes no).render env = some (o.elim b f) := by
  cases o with
  | none =>
      exact render_whenTrue env path yes no .nil "" b h (fun hyes => by cases hyes) fun _ => hno
  | some s =>
      have hyes := hyes s rfl
      exact render_whenTrue env path yes no (.text s) _ b h (fun _ => hyes) fun hno => by cases hno

/-- A choice by a count writes its side if the count is above the bound. -/
theorem render_whenAbove (path : List String) (bound i : Int) (yes : List Node) (a : String)
    (h : (operandOf path).value? env = some (.int i)) (hyes : renderNodes env yes = some a) :
    (whenAbove path bound yes).render env = some (if bound < i then a else "") := by
  have hholds : (Condition.isGreater (operandOf path) (.literal (.int bound))).holds? env
      = some (bound < i : Bool) := by
    rw [Condition.holds?, h]
    rfl
  rw [whenAbove, Node.render, ← operandOf, hholds]
  by_cases hlt : bound < i
  · rw [if_pos hlt, decide_eq_true hlt]
    exact hyes
  · rw [if_neg hlt, decide_eq_false hlt, renderNodes]

/-- A loop writes its rounds one after another. -/
theorem render_forEach {α : Type} (name : String) (path : List String) (body : List Node)
    (xs : List α) (value : α → Value) (f : α → String)
    (h : (operandOf path).value? env = some (.list (xs.map value)))
    (hbody : ∀ x ∈ xs, renderNodes ((name, value x) :: env) body = some (f x)) :
    (forEach name path body).render env = some (String.join (xs.map f)) := by
  have hitems : ((operandOf path).value? env).bind Value.items? = some (xs.map value) := by
    rw [h]
    rfl
  have hrounds : (xs.map value).mapM (fun v => renderNodes ((name, v) :: env) body)
      = some (xs.map f) := by
    -- What the name stands for in `env` plays no part in the rounds.
    clear h hitems
    induction xs with
    | nil => rfl
    | cons x xs ih =>
        rw [List.map_cons, List.mapM_cons, hbody x List.mem_cons_self,
          ih fun y hy => hbody y (List.mem_cons_of_mem x hy)]
        rfl
  rw [forEach, Node.render, ← operandOf, hitems]
  exact congrArg (Option.map String.join) hrounds

end Writes

/-! ### Parts of a page -/

/-- A text stands somewhere in a page. -/
def Contains (page s : String) : Prop :=
  ∃ front back, page = front ++ s ++ back

theorem Contains.trans (page s t : String) (hs : Contains page s) (ht : Contains s t) :
    Contains page t := by
  rcases hs with ⟨front, back, rfl⟩
  rcases ht with ⟨front', back', rfl⟩
  exact ⟨front ++ front', back' ++ back, by simp only [String.append_assoc]⟩

/-- A text is part of the texts that it is one of. -/
theorem contains_join (texts : List String) (s : String) (hs : s ∈ texts) :
    Contains (String.join texts) s := by
  rcases List.append_of_mem hs with ⟨front, back, rfl⟩
  refine ⟨String.join front, String.join back, ?_⟩
  rw [String.join_append, String.join_cons, String.append_assoc]

/-- Each of some rounds has its text among the texts of all. -/
theorem mem_of_mapM (f : Value → Option String) (items : List Value) (texts : List String)
    (h : items.mapM f = some texts) : ∀ v ∈ items, ∃ s, f v = some s ∧ s ∈ texts := by
  induction items generalizing texts with
  | nil => exact fun v hv => absurd hv List.not_mem_nil
  | cons w ws ih =>
      rw [List.mapM_cons] at h
      rcases Option.bind_eq_some_iff.mp h with ⟨s, hs, hrest⟩
      rcases Option.bind_eq_some_iff.mp hrest with ⟨ss, hss, hboth⟩
      rw [← Option.some.inj hboth, List.forall_mem_cons]
      refine ⟨⟨s, hs, List.mem_cons_self⟩, fun v hv => ?_⟩
      rcases ih ss hss v hv with ⟨t, ht, hmem⟩
      exact ⟨t, ht, List.mem_cons_of_mem s hmem⟩

section Contains

variable (env : Bindings)

/-- Nodes in two parts write one text after the other. -/
theorem renderNodes_append (as bs : List Node) (page : String)
    (h : renderNodes env (as ++ bs) = some page) :
    ∃ a b, renderNodes env as = some a ∧ renderNodes env bs = some b ∧ page = a ++ b := by
  induction as generalizing page with
  | nil => exact ⟨"", page, by rw [renderNodes], h, by rw [String.empty_append]⟩
  | cons n as ih =>
      rw [List.cons_append, renderNodes] at h
      cases hn : n.render env with
      | none =>
          rw [hn] at h
          cases h
      | some s =>
          rw [hn] at h
          rcases Option.map_eq_some_iff.mp h with ⟨rest, hrest, rfl⟩
          rcases ih rest hrest with ⟨a, b, ha, hb, rfl⟩
          refine ⟨s ++ a, b, ?_, hb, by rw [String.append_assoc]⟩
          rw [renderNodes, hn, ha]
          rfl

/-- What the nodes in the middle write is in the page. -/
theorem contains_of_append (front middle back : List Node) (page : String)
    (h : renderNodes env (front ++ middle ++ back) = some page) :
    ∃ s, renderNodes env middle = some s ∧ Contains page s := by
  rcases renderNodes_append env (front ++ middle) back page h with ⟨ab, c, hab, -, rfl⟩
  rcases renderNodes_append env front middle ab hab with ⟨a, b, -, hb, rfl⟩
  exact ⟨b, hb, a, c, rfl⟩

/-- What a node writes is in the page. -/
theorem contains_of_mem (ns : List Node) (n : Node) (page : String) (hn : n ∈ ns)
    (h : renderNodes env ns = some page) : ∃ s, n.render env = some s ∧ Contains page s := by
  rcases List.append_of_mem hn with ⟨front, back, rfl⟩
  have hsplit : front ++ n :: back = front ++ [n] ++ back := by
    rw [List.append_assoc, List.singleton_append]
  rw [hsplit] at h
  rcases contains_of_append env front [n] back page h with ⟨s, hs, hcontains⟩
  refine ⟨s, ?_, hcontains⟩
  cases hrender : n.render env with
  | none =>
      rw [renderNodes, hrender] at hs
      cases hs
  | some t =>
      rw [renderNodes, hrender, renderNodes] at hs
      have happend : t ++ "" = s := Option.some.inj hs
      rw [← happend, String.append_empty]

/-- What a round of a loop writes is in what the loop writes. -/
theorem contains_round (name : String) (path : List String) (body : List Node)
    (items : List Value) (v : Value) (page : String)
    (hitems : (operandOf path).value? env = some (.list items)) (hv : v ∈ items)
    (h : (forEach name path body).render env = some page) :
    ∃ s, renderNodes ((name, v) :: env) body = some s ∧ Contains page s := by
  have hrange : ((operandOf path).value? env).bind Value.items? = some items := by
    rw [hitems]
    rfl
  rw [forEach, Node.render, ← operandOf, hrange] at h
  rcases Option.map_eq_some_iff.mp h with ⟨texts, htexts, rfl⟩
  rcases mem_of_mapM _ items texts htexts v hv with ⟨s, hs, hmem⟩
  exact ⟨s, hs, contains_join texts s hmem⟩

end Contains

end Template

end RunReport
