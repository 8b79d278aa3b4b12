import RunReport.Report

/-!
# The Criteria in Force

Which filter and which order a report goes by, out of the places where they can be given.

A filter can come from a parameter, from an attribute and from the manifest, and an order from a
parameter and from the manifest. The criteria of a report are found in two steps: those of the
query first, and then the manifest's filter if the query had none. Nothing after the first step
tells where a filter came from, so `criteria_eq` puts the two steps together: there is one
expression in force, and it alone decides whether the criteria are refused.

## Main definitions

* `Query.firstParameter`: The value of the first parameter with a name.
* `Query.firstNumber?`: The number between the blanks of that value.
* `Query.lastAttribute`: The value of the last attribute with a name.
* `Report.filterInForce`: The expression of the filter that counts.
* `Report.orderInForce`: The order of groups that counts.
* `Report.CollapseInForce`: Groups are to be collapsed.
* `Report.highlightInForce`: The highlights that count.

## Theorems

* `parameter_eq_firstParameter`: The value of a parameter is that of the first one.
* `attributeOf_eq_lastAttribute`: The value of an attribute is that of the last one.
* `int_eq_firstNumber`: A parameter counts as the number in its first value, and as 0 without one.
* `criteria_eq`: The criteria are those of the expression in force.
* `criteria_eq_ok_iff`: The criteria are accepted if that expression is a pattern.
* `orderInForce_eq`, `highlightInForce_eq`: The criteria have the order and highlights in force.
* `isCollapsed_unfiltered`: The criteria collapse groups if that is in force.
-/

namespace RunReport

namespace Query

/-- The value of the first of the parameters with a name. -/
def firstParameter (q : Query) (name : String) : Option String :=
  (q.parameters.filter (·.1 = name)).head?.map (·.2)

/-- The value of the last of the attributes with a name; its case does not count. -/
def lastAttribute (q : Query) (name : String) : Option String :=
  (q.attributes.filter fun a => lowered a.1 = lowered name).getLast?.map (·.2)

theorem parameter_eq_firstParameter (q : Query) (name : String) :
    q.parameter name = q.firstParameter name := by
  rw [parameter, firstParameter, List.head?_filter]

theorem attributeOf_eq_lastAttribute (q : Query) (name : String) :
    q.attributeOf name = q.lastAttribute name := by
  rw [attributeOf, lastAttribute, List.getLast?_filter]

/-- The number of 64 bits that the first of the parameters with a name writes, with blanks around
    it. -/
def firstNumber? (q : Query) (name : String) : Option Int :=
  (q.firstParameter name).bind fun text => Numeral.integer? 64 (Text.trim text.toList)

/-- A parameter counts as the number that its first value writes, and as 0 if it writes none. -/
theorem int_eq_firstNumber (q : Query) (name : String) :
    q.int name = (q.firstNumber? name).getD 0 := by
  rw [int, parameter_eq_firstParameter]
  rfl

end Query

namespace Report

/-- The expression of the filter that counts: that of the first parameter, else that of the last
    attribute, else the manifest's. -/
def filterInForce (m : Manifest) (q : Query) : Option String :=
  (q.firstParameter Parameter.filter).or <| (q.lastAttribute Parameter.filter).or m.filter

/-- The order of groups that counts: that of the first parameter if it names one, else the
    manifest's. -/
def orderInForce (m : Manifest) (q : Query) : GroupOrder :=
  ((q.firstParameter Parameter.sort).bind fun v => (GroupOrder.read v).toOption).getD m.groupOrder

/-- Groups are to be collapsed if the first parameter for it is the code 2. -/
def CollapseInForce (q : Query) : Prop :=
  q.firstNumber? Parameter.collapse = some 2

instance (q : Query) : Decidable (CollapseInForce q) :=
  inferInstanceAs (Decidable (_ = _))

/-- The highlights that count: those that the first parameter for them has the code of, and those
    of failing tests for another code or without a parameter. A parameter that is no number asks for
    none. -/
def highlightInForce (q : Query) : HighlightCriteria :=
  if (q.firstParameter Parameter.highlight).isNone then .failing
  else
    match q.firstNumber? Parameter.highlight with
    | none => .none
    | some 0 => .none
    | some 2 => .passing
    | some 3 => .skipped
    | some _ => .failing

/-- The criteria are those of the expression in force, wherever it was given. -/
theorem criteria_eq [PatternLibrary] (m : Manifest) (q : Query) :
    criteria m q =
      match filterInForce m q with
      | some e => (Criteria.unfiltered q).setFilter e
      | none => .ok (Criteria.unfiltered q) := by
  have hvalue : filterInForce m q = (q.value Parameter.filter).or m.filter := by
    rw [filterInForce, Query.value, Query.parameter_eq_firstParameter,
      Query.attributeOf_eq_lastAttribute, Option.or_assoc]
  rw [hvalue]
  unfold criteria Criteria.ofQuery
  cases q.value Parameter.filter with
  | none => cases m.filter <;> rfl
  | some e =>
      rw [Option.some_or]
      -- A filter of the query's own leaves the manifest's aside.
      simp only [Criteria.setFilter]
      cases NameFilter.read? e <;> rfl

/-- The criteria are accepted exactly if the expression in force, should there be one, is a
    pattern, and the filter is then that pattern. -/
theorem criteria_eq_ok_iff [PatternLibrary] (m : Manifest) (q : Query) (c : Criteria) :
    criteria m q = .ok c ↔
      (∀ e ∈ filterInForce m q, (NameFilter.read? e).isSome) ∧
      c = { Criteria.unfiltered q with filter := (filterInForce m q).bind NameFilter.read? } := by
  rw [criteria_eq]
  cases filterInForce m q with
  | none =>
      simp only [Option.mem_def, reduceCtorEq, false_implies, implies_true, true_and,
        Option.bind_none, Except.ok.injEq]
      exact eq_comm
  | some e =>
      simp only [Option.mem_def, Option.some.injEq, forall_eq', Option.bind_some,
        Criteria.setFilter]
      cases NameFilter.read? e with
      | none =>
          simp only [reduceCtorEq, Option.isSome_none, Bool.false_eq_true, false_and]
      | some f =>
          simp only [Except.ok.injEq, Option.isSome_some, true_and]
          exact eq_comm

/-- The order that the criteria name, or else the manifest's, is the order in force. -/
theorem orderInForce_eq (m : Manifest) (q : Query) :
    (Criteria.unfiltered q).sort.getD m.groupOrder = orderInForce m q := by
  rw [orderInForce, ← Query.parameter_eq_firstParameter]
  rfl

/-- The highlights of the criteria are those in force. -/
theorem highlightInForce_eq (q : Query) :
    (Criteria.unfiltered q).highlight = highlightInForce q := by
  have hcode : (Criteria.unfiltered q).highlight =
      if (q.firstParameter Parameter.highlight).isSome then
        HighlightCriteria.ofCode ((q.firstNumber? Parameter.highlight).getD 0)
      else .failing := by
    rw [← Query.int_eq_firstNumber, ← Query.parameter_eq_firstParameter]
    rfl
  rw [hcode, highlightInForce]
  cases q.firstParameter Parameter.highlight with
  | none => rfl
  | some text =>
      rw [if_pos Option.isSome_some, if_neg (by simp)]
      cases q.firstNumber? Parameter.highlight with
      | none => rfl
      | some code =>
          rw [Option.getD_some, HighlightCriteria.ofCode.eq_def]
          grind

/-- The criteria collapse groups if that is in force. -/
theorem isCollapsed_unfiltered (q : Query) :
    (Criteria.unfiltered q).isCollapsed = decide (CollapseInForce q) := by
  have hcode : (Criteria.unfiltered q).isCollapsed
      = decide ((q.firstNumber? Parameter.collapse).getD 0 = 2) := by
    rw [← Query.int_eq_firstNumber]
    rfl
  rw [hcode, decide_eq_decide, CollapseInForce]
  cases q.firstNumber? Parameter.collapse with
  | none => decide
  | some code => rw [Option.getD_some, Option.some_inj]

end Report

end RunReport
