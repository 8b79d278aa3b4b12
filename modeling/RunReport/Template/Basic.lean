import RunReport.Text.Markup
import RunReport.Text.Numeral

/-!
# Templates

Texts with places to fill in.

A template is a list of nodes: text as it stands, a value to be put in, a choice between two lists
of nodes, or a list of nodes repeated for each item of a value. Values come from bindings, and a
loop binds one name more. Where a value is put in its name must be bound. A choice is more lenient:
a name that is not bound counts as no value there.

## Main definitions

* `Template.Value`: What a name can be bound to.
* `Template.Node`, `Template`: The parts of a template.
* `Template.render`: A template with its places filled in, unless a value is missing.
* `TemplateLibrary`: What is said of a template that is not filled in.
-/

namespace RunReport

namespace Template

/-- What a name can be bound to. -/
inductive Value
  | nil
  | bool (b : Bool)
  | int (i : Int)
  | text (s : String)
  | list (items : List Value)
  | object (members : List (String × Value))

instance : Inhabited Value := ⟨.nil⟩

/-- Names and what they are bound to; the first of equal names counts. -/
abbrev Bindings := List (String × Value)

namespace Value

/-- The greatest integer a value can be. -/
def greatest : Nat := Word.signedLimit - 1

/-- A count as a value; one that is too great becomes the greatest integer. -/
def count (n : Nat) : Value :=
  int (min n greatest)

/-- A text that may be missing. -/
def maybe : Option String → Value
  | some s => text s
  | none => nil

/-- Whether a value counts as true. Empty texts and empty lists do. -/
def isTrue : Value → Bool
  | nil => false
  | bool b => b
  | _ => true

mutual

/-- A value as text. The items of a list follow each other. -/
def asText : Value → String
  | nil => ""
  | bool b => if b then "true" else "false"
  | int i => Numeral.signedText i
  | text s => s
  | list items => String.join (asTexts items)
  | object members => String.join (memberTexts members)

/-- The items of a list as texts. -/
def asTexts : List Value → List String
  | [] => []
  | v :: vs => asText v :: asTexts vs

/-- The members of an object as texts, each with its name. -/
def memberTexts : List (String × Value) → List String
  | [] => []
  | (n, v) :: rest => (n ++ asText v) :: memberTexts rest

end

/-- The member of an object that has a name. -/
def member? (name : String) : Value → Option Value
  | object members => (members.find? (·.1 = name)).map (·.2)
  | _ => none

end Value

/-- A value of a template: a path of names, or a value that is written down. -/
inductive Operand
  | path (name : String) (members : List String)
  | literal (v : Value)

/-- How a value is changed before it is put in. -/
inductive Filter
  | escape
  | join (separator : String)

/-- What a choice depends on: whether a value counts as true, or is a greater integer than
    another. -/
inductive Condition
  | isTrue (o : Operand)
  | isGreater (a b : Operand)

/-- A part of a template. -/
inductive Node
  | text (s : String)
  | output (o : Operand) (filters : List Filter)
  | choice (c : Condition) (yes no : List Node)
  | each (name : String) (range : Operand) (body : List Node)

/-- The value of an operand, unless a name is not bound. -/
def Operand.value? (env : Bindings) : Operand → Option Value
  | path name members =>
    members.foldl (fun v n => v.bind (Value.member? n)) ((env.find? (·.1 = name)).map (·.2))
  | literal v => some v

/-- A value changed by a filter. -/
def Filter.apply : Filter → Value → Option Value
  | escape, .nil => some .nil
  | escape, v => some (.text (Markup.escape v.asText))
  | join sep, .list items => some (.text (sep.intercalate (Value.asTexts items)))
  | join _, _ => none

/-- Whether a condition holds, unless a name is not bound. -/
def Condition.holds? (env : Bindings) : Condition → Option Bool
  | isTrue o => some ((o.value? env).getD .nil).isTrue
  | isGreater a b =>
    match a.value? env, b.value? env with
    | some (.int x), some (.int y) => some (y < x)
    | some _, some _ => some false
    | _, _ => none

/-- The items that a loop goes over, if a value has any. -/
def Value.items? : Value → Option (List Value)
  | list items => some items
  | nil => some []
  | _ => none

mutual

/-- A part of a template filled in, unless a value is missing. -/
def Node.render (env : Bindings) : Node → Option String
  | .text s => some s
  | .output o filters =>
    (filters.foldl (fun v f => v.bind f.apply) (o.value? env)).map Value.asText
  | .choice c yes no =>
    match c.holds? env with
    | none => none
    | some true => renderNodes env yes
    | some false => renderNodes env no
  | .each name range body =>
    match (range.value? env).bind Value.items? with
    | none => none
    | some items =>
      (items.mapM fun v => renderNodes ((name, v) :: env) body).map String.join

/-- Parts of a template filled in, one after the other. -/
def renderNodes (env : Bindings) : List Node → Option String
  | [] => some ""
  | n :: ns =>
    match Node.render env n with
    | none => none
    | some s => (renderNodes env ns).map (s ++ ·)

end

/-- A member of a bound object, put in as it is. -/
def plain (path : List String) : Node :=
  .output (.path (path.headD "") path.tail) []

/-- A member of a bound object, put in as text of a page. -/
def escaped (path : List String) : Node :=
  .output (.path (path.headD "") path.tail) [.escape]

/-- Nodes that are there only if a value counts as true. -/
def whenTrue (path : List String) (yes : List Node) (no : List Node := []) : Node :=
  .choice (.isTrue (.path (path.headD "") path.tail)) yes no

/-- Nodes that are there only if a value is an integer above a bound. -/
def whenAbove (path : List String) (bound : Int) (yes : List Node) : Node :=
  .choice (.isGreater (.path (path.headD "") path.tail) (.literal (.int bound))) yes []

/-- Nodes that are repeated for the items of a value. -/
def forEach (name : String) (path : List String) (body : List Node) : Node :=
  .each name (.path (path.headD "") path.tail) body

end Template

/-- A text with places to fill in. -/
structure Template where
  nodes : List Template.Node

namespace Template

/-- A template with its places filled in, unless a value is missing. -/
def render (t : Template) (env : Bindings) : Option String :=
  renderNodes env t.nodes

end Template

/-- What the library of templates says of a template that it cannot fill in. -/
class TemplateLibrary where
  complaint : Template → Template.Bindings → String

end RunReport
