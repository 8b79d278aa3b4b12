import RunReport.Filter
import RunReport.Text.FormEncoding

/-!
# Queries

What a reader of a page asked for, and what is remembered about the reader.

Parameters come with the query itself, and the first of a repeated name counts. Attributes live
longer; their names are compared without case, and the last of a repeated name counts. A number
that is not well formed counts as zero or as missing, but a filter that is no pattern is refused
with what the library of patterns says of it.

## Main definitions

* `Query`: Parameters and attributes.
* `Query.parameter`, `Query.attributeOf`: The value of a name.
* `Query.int`, `Query.id?`: A value as a number.
* `FormMode`: What is to be done with the shown record.
* `Criteria`: How tests are sorted, collapsed, highlighted and filtered.
* `Criteria.ofQuery`, `Criteria.setFilter`: The criteria of a query, and with another filter.
* `Criteria.changeFilter`, `Criteria.changeFilters`: The same for criteria that are in force.
-/

namespace RunReport

/-- The parameters of a query and the attributes of its reader, in the order in which they came. -/
structure Query where
  parameters : List (String × String) := []
  attributes : List (String × String) := []

namespace Query

/-- The query that a text writes; question marks in front do not count. -/
def read (text : String) : Query :=
  { parameters := FormEncoding.pairs (text.toList.dropWhile (· = '?')) }

/-- A query with further attributes. -/
def withAttributes (q : Query) (attributes : List (String × String)) : Query :=
  { q with attributes := q.attributes ++ attributes }

/-- The value of the first parameter of a name. -/
def parameter (q : Query) (name : String) : Option String :=
  (q.parameters.find? (·.1 = name)).map (·.2)

/-- A name in lower case. -/
def lowered (name : String) : String :=
  String.ofList (name.toList.map Char.toLower)

/-- The value of the last attribute of a name, whatever its case. -/
def attributeOf (q : Query) (name : String) : Option String :=
  (q.attributes.reverse.find? fun a => lowered a.1 = lowered name).map (·.2)

/-- The value of a parameter as a number of 64 bits; 0 if there is none. -/
def int (q : Query) (name : String) : Int :=
  ((q.parameter name).bind fun v => Numeral.integer? 64 (Text.trim v.toList)).getD 0

/-- The value of a parameter, or of an attribute if there is no such parameter. -/
def value (q : Query) (name : String) : Option String :=
  (q.parameter name).or (q.attributeOf name)

/-- A value as the id of a record. -/
def id? (q : Query) (name : String) : Option UInt64 :=
  (q.value name).bind fun v => Numeral.word? (Text.trim v.toList)

end Query

/-! ### The names of parameters -/

namespace Parameter

/-- The id of a test. -/
def testId : String := "testId"

/-- The id of a suite. -/
def suiteId : String := "suiteId"

/-- A pattern for the versions of builds. -/
def buildVersion : String := "buildVersion"

/-- A changelist. -/
def changelist : String := "changelist"

/-- How a changelist is compared. -/
def changelistOp : String := "changelistOp"

/-- The order of groups. -/
def sort : String := "sort"

/-- Whether groups are collapsed. -/
def collapse : String := "collapse"

/-- What is highlighted. -/
def highlight : String := "highlight"

/-- A filter for names. -/
def filter : String := "filter"

/-- What is to be done with a record. -/
def mode : String := "mode"

end Parameter

/-- What is to be done with the shown record. -/
inductive FormMode
  | view
  | update
  | delete
  deriving DecidableEq

namespace FormMode

/-- The word for a mode in a query. -/
def label : FormMode → String
  | view => "view"
  | update => "update"
  | delete => "delete"

/-- The mode that a query asks for. -/
def ofQuery (q : Query) : FormMode :=
  match q.parameter Parameter.mode with
  | some "update" => update
  | some "delete" => delete
  | _ => view

end FormMode

/-- A value that a field of a form does not accept, and what is wrong with it. -/
structure RefusedValue where
  field : String
  value : String
  cause : String
  deriving DecidableEq

/-- What is said of a refused value. -/
def RefusedValue.message (r : RefusedValue) : String :=
  "The form value does not conform to the rules for this field: field=" ++ r.field ++
    ", value=" ++ r.value ++ " (" ++ r.cause ++ ")"

/-- How tests are sorted, collapsed, highlighted and filtered. -/
structure Criteria where
  sort : Option GroupOrder := none
  collapse : Int := 0
  highlight : HighlightCriteria := .failing
  filter : Option NameFilter := none

namespace Criteria

variable [PatternLibrary]

/-- The code that stands for collapsing groups. -/
def collapseByName : Int := 2

/-- Whether groups are collapsed. -/
def isCollapsed (c : Criteria) : Bool :=
  c.collapse == collapseByName

/-- A filter that is refused. -/
def refused (expression : String) : RefusedValue :=
  { field := Parameter.filter
    value := expression
    cause := PatternLibrary.complaint (NameFilter.wholeName expression) }

/-- Criteria with another filter. -/
def setFilter (c : Criteria) (expression : String) : Except RefusedValue Criteria :=
  match NameFilter.read? expression with
  | some f => .ok { c with filter := some f }
  | none => .error (refused expression)

/-- The step that puts another filter in force. It is refused before it has changed anything. -/
def changeFilter (expression : String) : ExceptT RefusedValue (StateM Criteria) Unit :=
  match NameFilter.read? expression with
  | some f => modify fun c => { c with filter := some f }
  | none => throw (refused expression)

/-- Such steps one after the other, whatever becomes of each, and what each of them answers. -/
def changeFilters (expressions : List String) :
    StateM Criteria (List (Except RefusedValue Unit)) :=
  expressions.mapM fun e => (changeFilter e).run

/-- The criteria of a query apart from the filter. -/
def unfiltered (q : Query) : Criteria :=
  { sort := (q.parameter Parameter.sort).bind fun v => (GroupOrder.read v).toOption
    collapse := q.int Parameter.collapse
    highlight :=
      if (q.parameter Parameter.highlight).isSome then
        HighlightCriteria.ofCode (q.int Parameter.highlight)
      else default }

/-- The criteria of a query; the filter may also be an attribute. -/
def ofQuery (q : Query) : Except RefusedValue Criteria :=
  match q.value Parameter.filter with
  | some expression => (unfiltered q).setFilter expression
  | none => .ok (unfiltered q)

/-- Criteria with a filter that counts if they have none. -/
def withDefaultFilter (c : Criteria) (expression : Option String) : Except RefusedValue Criteria :=
  match c.filter, expression with
  | none, some e => c.setFilter e
  | _, _ => .ok c

end Criteria

end RunReport
