import RunReport.Proofs.PageAttributes
import RunReport.Report
import RunReport.Template.Parser

/-!
# The Page of a Failure

A page that shows a message, whatever the message says.

The message is written with five replacements, one after the other, over the whole text. A later one
also sees what an earlier one wrote, so in another order the ampersand of an entity would be
replaced again. That the result is the same as one look at each character (`escapeInTurn_eq_escape`)
is no induction: each replacement is a map of characters to texts, such maps compose, and the five
together need to be compared with the one on single characters only.

The templates of the other pages escape in one pass, so both ways of writing share what is known of
one of them. No mark of the message is left. An ampersand that is left begins an entity, because no
entity has a second one (`entity_of_suffix`). So the page is read as two tags with the message
between them, and the message cannot bring about a third.

## Main definitions

* `Markup.entities`: The five entities.
* `Markup.Part`, `Markup.parts`: A page as its tags and the texts between them.

## Theorems

* `replaceChar_flatMap`: A replacement after a map is a map.
* `escapeInTurn_eq_escape`: Five replacements are one pass.
* `entity_of_suffix`: Every ampersand of an escaped text begins an entity.
* `partsFrom_text`: A text up to the next tag.
* `parts_preformatted`, `unescape_preformatted`: A message on a page is read as it is.
* `escaping_exact`: Texts and pages of failures are escaped exactly.
-/

namespace RunReport

namespace Markup

/-! ### One replacement after the other -/

/-- A replacement after a map of characters to texts is such a map again. -/
theorem replaceChar_flatMap (c : Char) (by_ : String) (f : Char → List Char) (cs : List Char) :
    replaceChar c by_ (cs.flatMap f) = cs.flatMap fun x => replaceChar c by_ (f x) :=
  List.flatMap_assoc

/-- The five replacements of a single character. Those that follow the one of the character itself
    find nothing to replace in its entity. -/
theorem replaceChar_singleton (c : Char) :
    replaceChar '\'' "&#39;" (replaceChar '"' "&quot;" (replaceChar '>' "&gt;"
      (replaceChar '<' "&lt;" (replaceChar '&' "&amp;" [c])))) = escapeChar c := by
  unfold escapeChar
  cases he : entity? c with
  | none =>
      -- A character without an entity is none of the five.
      have hother : ∀ d, (entity? d).isSome → ¬c = d := by
        rintro d hd rfl
        rw [he] at hd
        cases hd
      simp only [replaceChar, List.flatMap_singleton, if_neg (hother '&' rfl),
        if_neg (hother '<' rfl), if_neg (hother '>' rfl), if_neg (hother '"' rfl),
        if_neg (hother '\'' rfl)]
  | some e =>
      unfold entity? at he
      split at he
      case h_6 => cases he
      all_goals
        cases he
        rfl

/-- Five replacements over the whole text write what one pass writes. -/
theorem escapeInTurn_eq_escape (s : String) : escapeInTurn s = escape s := by
  unfold escapeInTurn escape
  have hfirst : replaceChar '&' "&amp;" s.toList
      = s.toList.flatMap fun c => replaceChar '&' "&amp;" [c] := by
    simp only [replaceChar, List.flatMap_singleton]
  rw [hfirst]
  simp only [replaceChar_flatMap, replaceChar_singleton]

/-! ### Entities -/

/-- The entities that an escaped text can have. -/
def entities : List String :=
  ["&amp;", "&lt;", "&gt;", "&quot;", "&#39;"]

theorem mem_entities (c : Char) (e : String) (h : entity? c = some e) : e ∈ entities := by
  unfold entity? at h
  split at h
  case h_6 => cases h
  all_goals
    cases h
    decide

/-- An entity has one ampersand, in front. -/
theorem exists_tail (e : String) (h : e ∈ entities) :
    ∃ tail, e.toList = '&' :: tail ∧ '&' ∉ tail := by
  have hall : ∀ e ∈ entities, e.toList = '&' :: e.toList.tail ∧ '&' ∉ e.toList.tail := by decide
  exact ⟨_, hall e h⟩

/-- An ampersand behind a text without one does not begin in it. -/
theorem suffix_of_append (front cs rest : List Char) (h : '&' ∉ front)
    (hrest : '&' :: rest <:+ front ++ cs) : '&' :: rest <:+ cs := by
  induction front with
  | nil => exact hrest
  | cons c front ih =>
      rw [List.mem_cons, not_or] at h
      rcases List.suffix_cons_iff.mp hrest with heq | hrest
      · exact absurd (List.cons.inj heq).1 h.1
      · exact ih h.2 hrest

/-- Every ampersand of an escaped text begins an entity: it was written for a character, and what is
    written for one has no other ampersand. -/
theorem entity_of_suffix (s : String) (rest : List Char) (h : '&' :: rest <:+ (escape s).toList) :
    ∃ e ∈ entities, e.toList <+: '&' :: rest := by
  unfold escape at h
  rw [String.toList_ofList] at h
  generalize s.toList = cs at h
  induction cs with
  | nil => exact absurd (List.suffix_nil.mp h) (List.cons_ne_nil _ _)
  | cons c cs ih =>
      rw [List.flatMap_cons, escapeChar] at h
      cases he : entity? c with
      | none =>
          rw [he] at h
          refine ih (suffix_of_append [c] _ rest ?_ h)
          rw [List.mem_singleton]
          rintro rfl
          cases he
      | some e =>
          -- The only ampersand of an entity is its first character.
          rcases exists_tail e (mem_entities c e he) with ⟨tail, htail, hfree⟩
          rw [he] at h
          simp only [htail, List.cons_append] at h
          rcases List.suffix_cons_iff.mp h with heq | h
          · refine ⟨e, mem_entities c e he, ?_⟩
            rw [heq, htail, ← List.cons_append]
            exact List.prefix_append _ _
          · exact ih (suffix_of_append tail _ rest hfree h)

/-! ### Tags and texts -/

/-- A part of a page as a browser sees it: a tag, or a text with its entities read. -/
inductive Part
  | tag (s : String)
  | text (s : String)
  deriving DecidableEq

/-- The parts of what is left of a page, inside or outside of a tag of which some was read. -/
def partsFrom (inTag : Bool) (read : List Char) : List Char → List Part
  | [] => [if inTag then .tag (String.ofList read) else .text (unescape (String.ofList read))]
  | c :: cs =>
    if inTag then
      if c = '>' then .tag (String.ofList read) :: partsFrom false [] cs
      else partsFrom true (read ++ [c]) cs
    else if c = '<' then .text (unescape (String.ofList read)) :: partsFrom true [] cs
    else partsFrom false (read ++ [c]) cs

/-- The parts of a page, of which the first is a text. -/
def parts (page : String) : List Part :=
  partsFrom false [] page.toList

/-- A text without angle brackets goes on to the next tag. -/
theorem partsFrom_text (read cs rest : List Char) (h : '<' ∉ cs) :
    partsFrom false read (cs ++ '<' :: rest)
      = .text (unescape (String.ofList (read ++ cs))) :: partsFrom true [] rest := by
  induction cs generalizing read with
  | nil =>
      rw [List.nil_append, List.append_nil]
      rfl
  | cons c cs ih =>
      rw [List.mem_cons, not_or] at h
      have hstep : partsFrom false read (c :: (cs ++ '<' :: rest))
          = partsFrom false (read ++ [c]) (cs ++ '<' :: rest) := by
        rw [partsFrom, if_neg Bool.false_ne_true, if_neg fun hc => h.1 hc.symm]
      rw [List.cons_append, hstep, ih _ h.2, List.append_assoc, List.singleton_append]

/-- A message on a page is a text between two tags, and this text is the message. -/
theorem parts_preformatted (s : String) :
    parts (preformatted s)
      = [.text "", .tag "pre", .text ("\n" ++ s ++ "\n"), .tag "/pre", .text "\n"] := by
  have hbody : '<' ∉ ("\n" ++ escape s ++ "\n").toList := by
    rw [String.toList_append, String.toList_append, List.mem_append, List.mem_append, not_or,
      not_or]
    exact ⟨⟨by decide, inert_escape s⟩, by decide⟩
  have hpage : (preformatted s).toList
      = "<pre>".toList ++ (("\n" ++ escape s ++ "\n").toList ++ '<' :: "/pre>\n".toList) := by
    have hopen : "<pre>\n" = "<pre>" ++ "\n" := rfl
    have hclose : "\n</pre>\n" = "\n" ++ "</pre>\n" := rfl
    have hend : '<' :: "/pre>\n".toList = "</pre>\n".toList := rfl
    rw [preformatted, escapeInTurn_eq_escape, hopen, hclose, hend]
    simp only [String.toList_append, List.append_assoc]
  -- The escaped text has no tag, so it is one part up to the closing tag.
  have htext := partsFrom_text [] _ "/pre>\n".toList hbody
  rw [List.nil_append, String.ofList_toList, unescape_escape "\n" s "\n" (by decide) (by decide)]
    at htext
  have htag : ∀ cs, partsFrom false [] ("<pre>".toList ++ cs)
      = .text "" :: .tag "pre" :: partsFrom false [] cs := fun _ => rfl
  rw [parts, hpage, htag, htext]
  rfl

/-- The whole page is read as the message between two tags. -/
theorem unescape_preformatted (s : String) :
    unescape (preformatted s) = "<pre>\n" ++ s ++ "\n</pre>\n" := by
  rw [preformatted, escapeInTurn_eq_escape]
  exact unescape_escape _ s _ (by decide) (by decide)

/-- Texts are escaped exactly. Five replacements in turn write what one pass writes, and what the
    filter of the templates writes: no mark is left, every ampersand begins an entity, and the text
    is read back. So the page of a failure, which is shown in place of a template that is not filled
    in, is read as two tags with what is said of the failure between them. -/
theorem escaping_exact [TemplateLibrary] (s : String) :
    escapeInTurn s = escape s ∧
    (∀ d ∈ marks, d ∉ (escapeInTurn s).toList) ∧
    (∀ rest, '&' :: rest <:+ (escapeInTurn s).toList → ∃ e ∈ entities, e.toList <+: '&' :: rest) ∧
    unescape (escapeInTurn s) = s ∧
    (Template.parse? "\x7b\x7b message | escape \x7d\x7d").bind (·.render [("message", .text s)])
      = some (escapeInTurn s) ∧
    parts (preformatted s)
      = [.text "", .tag "pre", .text ("\n" ++ s ++ "\n"), .tag "/pre", .text "\n"] ∧
    (∀ t env, t.render env = none → Report.bestEffort t env
      = .ok (Failure.template (TemplateLibrary.complaint t env)).page) ∧
    ∀ f : Failure,
      unescape f.page = "<pre>\n" ++ f.message ++ "\n</pre>\n" ∧
      parts f.page
        = [.text "", .tag "pre", .text ("\n" ++ f.message ++ "\n"), .tag "/pre", .text "\n"] := by
  have hread := unescape_escape "" s "" (by decide) (by decide)
  rw [String.empty_append, String.empty_append, String.append_empty, String.append_empty] at hread
  have htemplate : Template.parse? "\x7b\x7b message | escape \x7d\x7d"
      = some ⟨[Template.escaped ["message"]]⟩ := by
    rfl
  rw [escapeInTurn_eq_escape]
  refine ⟨rfl, fun d hd => not_mem_escape d hd s, entity_of_suffix s, hread, ?_,
    parts_preformatted s, fun t env h => ?_,
    fun f => ⟨unescape_preformatted _, parts_preformatted _⟩⟩
  · rw [htemplate, Option.bind_some, Template.render]
    exact Template.renderNodes_singleton _ _ _ (Template.render_escaped _ ["message"] s rfl)
  · rw [Report.bestEffort, h]
    rfl

end Markup

end RunReport
