/-!
# Framed Messages

A message between two rules, as a diagnostic shows it.

## Main definitions

* `rule`: A line of 79 tildes.
* `framed`: A title, and the message between two rules.
-/

namespace RunReport

namespace Text

/-- A line of 79 tildes. -/
def rule : String :=
  String.ofList (List.replicate 79 '~')

/-- A title, and a message between two rules in brackets after it. -/
def framed (title message : String) : String :=
  title ++ "(\n" ++ rule ++ "\n" ++ message ++ "\n" ++ rule ++ "\n)"

end Text

end RunReport
