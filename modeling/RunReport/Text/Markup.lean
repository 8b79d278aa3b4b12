/-!
# Text in Markup

Writing a text inside an HTML page so that it reads as that text.

Five characters mean something to a browser inside text or inside a quoted attribute. Each is
written as its entity, and every other character stands for itself. `escape` looks at each
character once. `escapeInTurn` replaces one of the five after the other, the ampersand first,
because the later entities bring ampersands of their own; the page that shows a failure is written
so.

## Main definitions

* `entity?`: The entity of a character that needs one.
* `escape`: A text with those characters written as entities.
* `escapeInTurn`: The same by five replacements.
* `preformatted`: A page that shows one message as it stands.
-/

namespace RunReport

namespace Markup

/-- The entity that a character is written as, if it needs one. -/
def entity? : Char → Option String
  | '&' => some "&amp;"
  | '<' => some "&lt;"
  | '>' => some "&gt;"
  | '"' => some "&quot;"
  | '\'' => some "&#39;"
  | _ => none

/-- How one character is written. -/
def escapeChar (c : Char) : List Char :=
  match entity? c with
  | some e => e.toList
  | none => [c]

/-- A text as it is written in a page. -/
def escape (s : String) : String :=
  String.ofList (s.toList.flatMap escapeChar)

/-- A text with every occurrence of one character replaced. -/
def replaceChar (c : Char) (by_ : String) (cs : List Char) : List Char :=
  cs.flatMap fun x => if x = c then by_.toList else [x]

/-- A text with the five characters replaced one after the other. The ampersand is first: the
    entities that follow begin with one. -/
def escapeInTurn (s : String) : String :=
  String.ofList <|
    replaceChar '\'' "&#39;" <| replaceChar '"' "&quot;" <| replaceChar '>' "&gt;" <|
      replaceChar '<' "&lt;" <| replaceChar '&' "&amp;" s.toList

/-- A page that shows one message as it stands. -/
def preformatted (message : String) : String :=
  "<pre>\n" ++ escapeInTurn message ++ "\n</pre>\n"

end Markup

end RunReport
