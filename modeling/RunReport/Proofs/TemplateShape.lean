import RunReport.Template.Basic

/-!
# The Shapes That a Template Reads

When a template cannot fail, told from the template and the shapes of its bindings.

Filling in a template fails as soon as a name that is put in is not bound, a loop goes over
something that is no list, or a comparison has a side that is not bound. Whether that happens
depends on the bindings, but not on the texts and numbers in them: it is enough to know which names
there are, which of them are integers, and what the members of the items of a list are. A `Shape`
keeps just that, and `isSupplied` goes through a template with shapes in place of values. It
mentions no record, so what it says of a template can be decided.

`Supplied` is what a template asks of its bindings, and it asks for more than rendering does. A
choice is decided even if its name is not bound, and a comparison even if its sides are no integers;
`Supplied` allows neither, on any branch that is taken. `supplied_of_isSupplied` is the soundness of
the shapes, and `renderNodes_of_supplied` says that nothing more is needed for a page.

## Main definitions

* `Shape`: What is known of a value.
* `Shape.Covers`: A value has a shape.
* `Shape.Promises`: If there is a shape there is a value of it.
* `Scope`: Names and the shapes of what they are bound to, and `Scope.Covers` for bindings.
* `Supplied`: Whatever nodes read on their way is bound, and only integers are compared.
* `isSupplied`: The same, decided from the shapes.

## Theorems

* `promises_foldl`: Steps that keep a value in its shape do so one after the other.
* `covers_operand`: An operand with a shape has a value of that shape.
* `supplied_of_isSupplied`: Nodes that are supplied as far as the shapes tell are supplied.
* `renderNodes_of_supplied`: Nodes that are supplied can be filled in.
-/

namespace RunReport

namespace Template

/-- What is known of a value: that it is there, that it is an integer or a list of values of one
    shape, or which members it has at least. -/
inductive Shape
  | any
  | int
  | list (item : Shape)
  | object (members : List (String × Shape))

/-- Names and the shapes of what they are bound to; the first of equal names counts. -/
abbrev Scope := List (String × Shape)

namespace Shape

mutual

/-- Whether a value has a shape. -/
def Covers : Shape → Value → Prop
  | any, _ => True
  | int, v => ∃ i, v = .int i
  | list item, v => ∃ items, v = .list items ∧ ∀ x ∈ items, item.Covers x
  | object members, v => CoversMembers members v

/-- Whether a value has some members, each of them with a shape. -/
def CoversMembers : List (String × Shape) → Value → Prop
  | [], _ => True
  | (name, s) :: members, v =>
    (∃ x, v.member? name = some x ∧ s.Covers x) ∧ CoversMembers members v

end

/-- The shape of a member. -/
def member? (name : String) : Shape → Option Shape
  | object members => members.lookup name
  | _ => none

/-- If there is a shape there is a value, and it has that shape. -/
def Promises (s : Option Shape) (v : Option Value) : Prop :=
  ∀ t, s = some t → ∃ x, v = some x ∧ t.Covers x

/-- A member of a value has the shape of that member. -/
theorem covers_lookup (members : List (String × Shape)) (name : String) (v : Value)
    (hv : CoversMembers members v) : Promises (members.lookup name) (v.member? name) := by
  intro s hs
  induction members with
  | nil => cases hs
  | cons m members ih =>
      rw [CoversMembers] at hv
      rw [List.lookup_cons] at hs
      split at hs
      · next heq =>
          rw [beq_iff_eq.mp heq, ← Option.some.inj hs]
          exact hv.1
      · exact ih hv.2 hs

theorem covers_member (name : String) (s : Shape) (v : Value) (hv : s.Covers v) :
    Promises (s.member? name) (v.member? name) := by
  cases s with
  | object members =>
      rw [Covers] at hv
      exact covers_lookup members name v hv
  | any => intro t ht; cases ht
  | int => intro t ht; cases ht
  | list item => intro t ht; cases ht

/-- The shape of what comes out of a filter. -/
def through : Filter → Shape → Option Shape
  | .escape, _ => some any
  | .join _, list _ => some any
  | .join _, _ => none

theorem covers_through (f : Filter) (s : Shape) (v : Value) (hv : s.Covers v) :
    Promises (through f s) (f.apply v) := by
  have hany : ∀ x : Value, Promises (some any) (some x) := by
    intro x t ht
    refine ⟨x, rfl, ?_⟩
    rw [← Option.some.inj ht, Covers]
    trivial
  cases f with
  | escape => cases v <;> exact hany _
  | join separator =>
      cases s with
      | list item =>
          rw [Covers] at hv
          rcases hv with ⟨items, rfl, -⟩
          exact hany _
      | any => intro t ht; cases ht
      | int => intro t ht; cases ht
      | object members => intro t ht; cases ht

/-- Steps that keep a value in its shape do so one after the other. -/
theorem promises_foldl {α : Type} (shape : α → Shape → Option Shape)
    (value : α → Value → Option Value)
    (hstep : ∀ a s v, Covers s v → Promises (shape a s) (value a v)) (steps : List α)
    (s : Option Shape) (v : Option Value) (h : Promises s v) :
    Promises (steps.foldl (fun s a => s.bind (shape a)) s)
      (steps.foldl (fun v a => v.bind (value a)) v) := by
  induction steps generalizing s v with
  | nil => exact h
  | cons a steps ih =>
      refine ih _ _ fun t ht => ?_
      rcases Option.bind_eq_some_iff.mp ht with ⟨u, hu, hut⟩
      rcases h u hu with ⟨x, rfl, hx⟩
      exact hstep a u x hx t hut

end Shape

namespace Scope

/-- Every name is bound to a value of its shape. -/
def Covers (scope : Scope) (env : Bindings) : Prop :=
  ∀ name, Shape.Promises (scope.lookup name) ((env.find? (·.1 = name)).map (·.2))

/-- The shape of an operand, if its names are known to be bound. -/
def shape? (scope : Scope) : Operand → Option Shape
  | .path name members => members.foldl (fun s n => s.bind (Shape.member? n)) (scope.lookup name)
  | .literal (.int _) => some .int
  | .literal _ => some .any

theorem covers_nil (env : Bindings) : Covers [] env := by
  intro name s hs
  cases hs

/-- One name more is bound to a value of its shape. -/
theorem covers_cons (scope : Scope) (env : Bindings) (name : String) (s : Shape) (v : Value)
    (hv : s.Covers v) (hscope : scope.Covers env) :
    Covers ((name, s) :: scope) ((name, v) :: env) := by
  intro n t ht
  rw [List.lookup_cons] at ht
  by_cases hn : name = n
  · rw [hn, beq_self_eq_true] at ht
    rw [List.find?_cons_of_pos (by simpa using hn)]
    exact ⟨v, rfl, Option.some.inj ht ▸ hv⟩
  · rw [beq_false_of_ne (Ne.symm hn)] at ht
    rw [List.find?_cons_of_neg (by simpa using hn)]
    exact hscope n t ht

/-- An operand with a shape has a value of that shape. -/
theorem covers_operand (scope : Scope) (env : Bindings) (hscope : scope.Covers env) (o : Operand) :
    Shape.Promises (scope.shape? o) (o.value? env) := by
  cases o with
  | path name members =>
      exact Shape.promises_foldl _ _ Shape.covers_member members _ _ (hscope name)
  | literal v =>
      intro s hs
      cases v with
      | int i => exact ⟨_, rfl, by rw [← Option.some.inj hs, Shape.Covers]; exact ⟨i, rfl⟩⟩
      | _ => exact ⟨_, rfl, by rw [← Option.some.inj hs, Shape.Covers]; trivial⟩

end Scope

/-- A value changed by some filters. -/
def throughFilters (filters : List Filter) (v : Option Value) : Option Value :=
  filters.foldl (fun v f => v.bind f.apply) v

/-- The shape of what comes out of some filters. -/
def shapeThrough (filters : List Filter) (s : Option Shape) : Option Shape :=
  filters.foldl (fun s f => s.bind (Shape.through f)) s

/-! ### What a template asks for -/

/-- A condition whose operands are bound; those of a comparison are integers. -/
def Condition.Supplied (env : Bindings) : Condition → Prop
  | .isTrue o => ∃ v, o.value? env = some v
  | .isGreater a b => (∃ i, a.value? env = some (.int i)) ∧ ∃ j, b.value? env = some (.int j)

mutual

/-- Whatever a node reads on its way is bound. Only the branch of a choice that is taken counts. -/
def Node.Supplied (env : Bindings) : Node → Prop
  | .text _ => True
  | .output o filters => ∃ v, throughFilters filters (o.value? env) = some v
  | .choice c yes no =>
    c.Supplied env ∧
      (c.holds? env = some true → Supplied env yes) ∧ (c.holds? env = some false → Supplied env no)
  | .each name range body =>
    ∃ items, range.value? env = some (.list items) ∧ ∀ v ∈ items, Supplied ((name, v) :: env) body

/-- Whatever nodes read on their way is bound. -/
def Supplied (env : Bindings) : List Node → Prop
  | [] => True
  | n :: ns => n.Supplied env ∧ Supplied env ns

end

/-- A condition whose operands are bound, as far as the shapes tell. -/
def Condition.isSupplied (scope : Scope) : Condition → Bool
  | .isTrue o => (scope.shape? o).isSome
  | .isGreater a b =>
    match scope.shape? a, scope.shape? b with
    | some .int, some .int => true
    | _, _ => false

mutual

/-- Whether a node reads only what is bound, as far as the shapes tell. -/
def Node.isSupplied (scope : Scope) : Node → Bool
  | .text _ => true
  | .output o filters => (shapeThrough filters (scope.shape? o)).isSome
  | .choice c yes no => c.isSupplied scope && isSupplied scope yes && isSupplied scope no
  | .each name range body =>
    match scope.shape? range with
    | some (.list item) => isSupplied ((name, item) :: scope) body
    | _ => false

/-- Whether nodes read only what is bound, as far as the shapes tell. -/
def isSupplied (scope : Scope) : List Node → Bool
  | [] => true
  | n :: ns => n.isSupplied scope && isSupplied scope ns

end

/-! ### The shapes tell the truth -/

/-- A condition is supplied if the shapes tell so. -/
theorem Condition.supplied_of_isSupplied (scope : Scope) (env : Bindings)
    (hscope : scope.Covers env) (c : Condition) (h : c.isSupplied scope = true) :
    c.Supplied env := by
  -- Only the comparison looks at what kind of value it is given.
  have hint : ∀ o, scope.shape? o = some .int → ∃ i, o.value? env = some (.int i) := by
    intro o ho
    rcases Scope.covers_operand scope env hscope o .int ho with ⟨x, hx, hcovers⟩
    rw [Shape.Covers] at hcovers
    rcases hcovers with ⟨i, rfl⟩
    exact ⟨i, hx⟩
  cases c with
  | isTrue o =>
      rcases Option.isSome_iff_exists.mp h with ⟨s, hs⟩
      rcases Scope.covers_operand scope env hscope o s hs with ⟨v, hv, -⟩
      exact ⟨v, hv⟩
  | isGreater a b =>
      rw [Condition.isSupplied] at h
      split at h
      · next ha hb => exact ⟨hint a ha, hint b hb⟩
      · cases h

mutual

/-- A node is supplied if the shapes tell so. -/
theorem Node.supplied_of_isSupplied (scope : Scope) (env : Bindings) (hscope : scope.Covers env)
    (n : Node) (h : n.isSupplied scope = true) : n.Supplied env := by
  match n with
  | .text s =>
      rw [Node.Supplied]
      trivial
  | .output o filters =>
      rw [Node.isSupplied] at h
      rw [Node.Supplied]
      rcases Option.isSome_iff_exists.mp h with ⟨s, hs⟩
      have hvalue := Scope.covers_operand scope env hscope o
      rcases Shape.promises_foldl _ _ Shape.covers_through filters _ _ hvalue s hs with ⟨v, hv, -⟩
      exact ⟨v, hv⟩
  | .choice c yes no =>
      rw [Node.isSupplied, Bool.and_eq_true, Bool.and_eq_true] at h
      rw [Node.Supplied]
      exact ⟨c.supplied_of_isSupplied scope env hscope h.1.1,
        fun _ => supplied_of_isSupplied scope env hscope yes h.1.2,
        fun _ => supplied_of_isSupplied scope env hscope no h.2⟩
  | .each name range body =>
      rw [Node.isSupplied] at h
      rw [Node.Supplied]
      split at h
      · next item hitem =>
          rcases Scope.covers_operand scope env hscope range _ hitem with ⟨v, hv, hcovers⟩
          rw [Shape.Covers] at hcovers
          rcases hcovers with ⟨items, rfl, hitems⟩
          exact ⟨items, hv, fun x hx => supplied_of_isSupplied _ _
            (Scope.covers_cons scope env name item x (hitems x hx) hscope) body h⟩
      · cases h

/-- Nodes are supplied if the shapes tell so. -/
theorem supplied_of_isSupplied (scope : Scope) (env : Bindings) (hscope : scope.Covers env)
    (ns : List Node) (h : isSupplied scope ns = true) : Supplied env ns := by
  match ns with
  | [] =>
      rw [Supplied]
      trivial
  | n :: ns =>
      rw [isSupplied, Bool.and_eq_true] at h
      rw [Supplied]
      exact ⟨n.supplied_of_isSupplied scope env hscope h.1,
        supplied_of_isSupplied scope env hscope ns h.2⟩

end

/-! ### Nothing more is needed -/

/-- A condition whose operands are bound holds or does not hold. -/
theorem Condition.holds?_of_supplied (env : Bindings) (c : Condition) (h : c.Supplied env) :
    ∃ b, c.holds? env = some b := by
  cases c with
  | isTrue o => exact ⟨_, rfl⟩
  | isGreater a b =>
      rcases h with ⟨⟨i, hi⟩, j, hj⟩
      rw [Condition.holds?, hi, hj]
      exact ⟨_, rfl⟩

/-- The rounds of a loop are all there if each of them is. -/
theorem mapM_of_forall (f : Value → Option String) (items : List Value)
    (h : ∀ v ∈ items, ∃ s, f v = some s) : ∃ ss, items.mapM f = some ss := by
  induction items with
  | nil => exact ⟨[], rfl⟩
  | cons v items ih =>
      rcases h v List.mem_cons_self with ⟨s, hs⟩
      rcases ih fun x hx => h x (List.mem_cons_of_mem v hx) with ⟨ss, hss⟩
      rw [List.mapM_cons, hs, hss]
      exact ⟨_, rfl⟩

mutual

/-- A node that is supplied can be filled in. -/
theorem Node.render_of_supplied (env : Bindings) (n : Node) (h : n.Supplied env) :
    ∃ s, n.render env = some s := by
  match n with
  | .text s =>
      rw [Node.render]
      exact ⟨s, rfl⟩
  | .output o filters =>
      rw [Node.Supplied] at h
      rcases h with ⟨v, hv⟩
      rw [Node.render, ← throughFilters, hv]
      exact ⟨_, rfl⟩
  | .choice c yes no =>
      rw [Node.Supplied] at h
      rcases c.holds?_of_supplied env h.1 with ⟨b, hb⟩
      rw [Node.render, hb]
      cases b with
      | true => exact renderNodes_of_supplied env yes (h.2.1 hb)
      | false => exact renderNodes_of_supplied env no (h.2.2 hb)
  | .each name range body =>
      rw [Node.Supplied] at h
      rcases h with ⟨items, hitems, hbody⟩
      rcases mapM_of_forall _ items fun v hv =>
        renderNodes_of_supplied ((name, v) :: env) body (hbody v hv) with ⟨ss, hss⟩
      rw [Node.render, hitems]
      exact ⟨String.join ss, congrArg (Option.map String.join) hss⟩

/-- Nodes that are supplied can be filled in. -/
theorem renderNodes_of_supplied (env : Bindings) (ns : List Node) (h : Supplied env ns) :
    ∃ s, renderNodes env ns = some s := by
  match ns with
  | [] =>
      rw [renderNodes]
      exact ⟨"", rfl⟩
  | n :: ns =>
      rw [Supplied] at h
      rcases n.render_of_supplied env h.1 with ⟨a, ha⟩
      rcases renderNodes_of_supplied env ns h.2 with ⟨b, hb⟩
      rw [renderNodes, ha, hb]
      exact ⟨_, rfl⟩

end

end Template

end RunReport
