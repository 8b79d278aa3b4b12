import RunReport.Pattern.Standard
import RunReport.Template.Basic
import RunReport.Url.Names

/-!
# The Libraries of the Program

What the program itself uses where the development leaves something to a library.

## Main definitions

* `TemplateLibrary.standard`: What the program says of a template that it cannot fill in.
-/

namespace RunReport

/-- What the program says of a template. Only a name that is not bound keeps it from being filled
    in. -/
instance TemplateLibrary.standard : TemplateLibrary where
  complaint _ _ := "liquid: Unknown variable"

end RunReport
