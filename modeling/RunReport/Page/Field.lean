import RunReport.Template.Basic

/-!
# Fields of Forms

What a page shows of a record, field by field.

## Main definitions

* `FormField`: One field: its name and value, and how it can be edited.
* `FormRow`: A field with its label and the address that its value links to.
* `FormCapabilities`: Which fields a form has.
-/

namespace RunReport

open Template

/-- One field of a form. -/
structure FormField where
  name : String
  value : String := ""
  width : Nat := 0
  isDisabled : Bool := false
  isHidden : Bool := false
  deriving DecidableEq

/-- A field as a template sees it. -/
def FormField.asValue (f : FormField) : Value :=
  .object [
    ("name", .text f.name), ("value", .text f.value), ("width", .count f.width),
    ("disabled", .bool f.isDisabled), ("hidden", .bool f.isHidden)]

/-- A field with its label and the address that its value links to. -/
structure FormRow where
  label : String
  field : FormField
  link : Option String := none
  deriving DecidableEq

/-- A row as a template sees it. -/
def FormRow.asValue (r : FormRow) : Value :=
  .object [("label", .text r.label), ("field", r.field.asValue), ("link", .maybe r.link)]

/-- Which fields a form has, and whether it can be used to remove a record. -/
structure FormCapabilities where
  hasDates : Bool := true
  hasStatus : Bool := true
  hasAdmin : Bool := true
  deriving DecidableEq

end RunReport
