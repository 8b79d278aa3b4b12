import RunReport.Proofs.NodeText

/-!
# Attributes of a Page

What a browser takes for the attributes of a page, and for their values.

A page is read from its beginning, character by character (`Place.after`). A reader is in the text
of the page, in a tag, or in the value of an attribute, and a quotation mark ends a value wherever
it comes from. So a value that is put into a page could end early and go on as attributes of its
own, and whether it does can only be said of a page as a whole. `Scans` says what is read between
two places. It is proved for the pieces of a page and put together by `Scans.append`.

Two things make this work for any value that is escaped: it has no angle bracket, so it leaves a
reader of the text where it was, and it has no quotation mark, so it does not end a value
(`scans_attribute`). What was escaped is read back from the value by `unescape`.

## Main definitions

* `Markup.unescape`: A text with its entities read as the characters that they stand for.
* `Markup.Place`, `Markup.scan`: Where a reader is, and the attributes that it has read.
* `Markup.attributes`, `Markup.valuesOf`: The attributes of a page, and the values of one name.
* `Markup.Scans`: What is read of a piece between two places.

## Theorems

* `unescape_escape`: A text is read back as it was.
* `scan_append`, `Scans.append`: Pieces are read one after another.
* `scans_ofList`, `scans_inert`: A text that is written down, and a value in the text of a page.
* `scans_value`, `scans_attribute`, `scans_escaped`: A value in an attribute.
* `scans_join`: Pieces that begin and end in the text of a page.
-/

namespace RunReport

namespace Markup

/-! ### Entities -/

/-- The characters that a text with entities stands for. -/
def unescapeChars : List Char → List Char
  | '&' :: 'a' :: 'm' :: 'p' :: ';' :: cs => '&' :: unescapeChars cs
  | '&' :: 'l' :: 't' :: ';' :: cs => '<' :: unescapeChars cs
  | '&' :: 'g' :: 't' :: ';' :: cs => '>' :: unescapeChars cs
  | '&' :: 'q' :: 'u' :: 'o' :: 't' :: ';' :: cs => '"' :: unescapeChars cs
  | '&' :: '#' :: '3' :: '9' :: ';' :: cs => '\'' :: unescapeChars cs
  | c :: cs => c :: unescapeChars cs
  | [] => []

/-- A text with its entities read as the characters that they stand for. -/
def unescape (s : String) : String :=
  String.ofList (unescapeChars s.toList)

/-- A character that begins no entity stands for itself. -/
theorem unescapeChars_cons (c : Char) (cs : List Char) (hc : c ≠ '&') :
    unescapeChars (c :: cs) = c :: unescapeChars cs := by
  rw [unescapeChars]
  all_goals
    intros
    exact hc ‹_›

/-- What is written for a character is read back as that character, whatever follows it. -/
theorem unescapeChars_escapeChar (c : Char) (cs : List Char) :
    unescapeChars (escapeChar c ++ cs) = c :: unescapeChars cs := by
  unfold escapeChar
  cases he : entity? c with
  | none =>
      have hc : c ≠ '&' := by
        rintro rfl
        exact absurd he (by decide)
      exact unescapeChars_cons c cs hc
  | some e =>
      unfold entity? at he
      split at he
      -- The last case is that of the characters that have no entity.
      case h_6 => cases he
      all_goals
        cases he
        rfl

/-- An escaped text is read back as it was, whatever follows it. -/
theorem unescapeChars_escape (s : String) (cs : List Char) :
    unescapeChars ((escape s).toList ++ cs) = s.toList ++ unescapeChars cs := by
  unfold escape
  rw [String.toList_ofList]
  induction s.toList with
  | nil => rfl
  | cons c rest ih =>
      rw [List.flatMap_cons, List.append_assoc, unescapeChars_escapeChar, ih, List.cons_append]

/-- A text without entities stands for itself. -/
theorem unescapeChars_append (front cs : List Char) (h : '&' ∉ front) :
    unescapeChars (front ++ cs) = front ++ unescapeChars cs := by
  induction front with
  | nil => rfl
  | cons c front ih =>
      rw [List.mem_cons, not_or] at h
      rw [List.cons_append, unescapeChars_cons c _ fun hc => h.1 hc.symm, ih h.2,
        List.cons_append]

/-- A text that was escaped between two others is read back, if these have no entities. -/
theorem unescape_escape (front s back : String) (hfront : '&' ∉ front.toList)
    (hback : '&' ∉ back.toList) :
    unescape (front ++ escape s ++ back) = front ++ s ++ back := by
  have hend : unescapeChars back.toList = back.toList := by
    have happend := unescapeChars_append back.toList [] hback
    rwa [unescapeChars, List.append_nil] at happend
  unfold unescape
  rw [String.toList_append, String.toList_append, List.append_assoc,
    unescapeChars_append _ _ hfront, unescapeChars_escape, hend, ← List.append_assoc,
    ← String.toList_append, ← String.toList_append, String.ofList_toList]

/-! ### Reading a page -/

/-- Where a reader of a page is: in its text, in a tag with the word that is being read, or in the
    value of an attribute. -/
inductive Place
  | text
  | tag (word : List Char)
  | value (name read : List Char)
  deriving DecidableEq

/-- The place behind one more character, and the attribute that ends with it. -/
def Place.after : Place → Char → Place × List (String × String)
  | text, c => (if c = '<' then tag [] else text, [])
  | tag word, c =>
    if c = '>' then (text, [])
    else if c = '"' then (value word [], [])
    else if c = ' ' ∨ c = '\n' then (tag [], [])
    else if c = '=' then (tag word, [])
    else (tag (word ++ [c]), [])
  | value name read, c =>
    if c = '"' then (tag [], [(String.ofList name, String.ofList read)])
    else (value name (read ++ [c]), [])

/-- The place behind some characters, and the attributes that end in them. -/
def scan (p : Place) : List Char → Place × List (String × String)
  | [] => (p, [])
  | c :: cs =>
    let (q, out) := p.after c
    let (r, more) := scan q cs
    (r, out ++ more)

/-- The attributes of a page with their values as they are written, in their order. -/
def attributes (page : String) : List (String × String) :=
  (scan .text page.toList).2

/-- The values of the attributes of one name. -/
def valuesOf (name : String) (as : List (String × String)) : List String :=
  (as.filter (·.1 = name)).map (·.2)

theorem valuesOf_append (name : String) (as bs : List (String × String)) :
    valuesOf name (as ++ bs) = valuesOf name as ++ valuesOf name bs := by
  rw [valuesOf, List.filter_append, List.map_append]
  rfl

theorem valuesOf_flatMap {α : Type} (name : String) (f : α → List (String × String))
    (xs : List α) :
    valuesOf name (xs.flatMap f) = xs.flatMap fun x => valuesOf name (f x) := by
  rw [valuesOf, List.filter_flatMap, List.map_flatMap]
  rfl

/-- A piece takes a reader from one place to another, and it reads some attributes. -/
def Scans (p : Place) (s : String) (out : List (String × String)) (q : Place) : Prop :=
  scan p s.toList = (q, out)

instance (p : Place) (s : String) (out : List (String × String)) (q : Place) :
    Decidable (Scans p s out q) :=
  inferInstanceAs (Decidable (_ = _))

theorem scan_cons (p : Place) (c : Char) (cs : List Char) :
    scan p (c :: cs) =
      ((scan (p.after c).1 cs).1, (p.after c).2 ++ (scan (p.after c).1 cs).2) :=
  rfl

theorem scan_append (p : Place) (as bs : List Char) :
    scan p (as ++ bs) =
      ((scan (scan p as).1 bs).1, (scan p as).2 ++ (scan (scan p as).1 bs).2) := by
  induction as generalizing p with
  | nil => rfl
  | cons c as ih =>
      rw [List.cons_append, scan_cons, ih, scan_cons, List.append_assoc]

/-- Pieces are read one after another. -/
theorem Scans.append {p q r : Place} {a b : String} {out more : List (String × String)}
    (ha : Scans p a out q) (hb : Scans q b more r) : Scans p (a ++ b) (out ++ more) r := by
  unfold Scans at *
  rw [String.toList_append, scan_append, ha, hb]

theorem scans_empty (p : Place) : Scans p "" [] p :=
  rfl

/-- What is read of a text that is written down. Its characters are taken as they are written;
    computing them takes much longer. -/
theorem scans_ofList (p q : Place) (cs : List Char) (out : List (String × String))
    (h : scan p cs = (q, out)) : Scans p (String.ofList cs) out q := by
  rw [Scans, String.toList_ofList, h]

/-- A text without angle brackets leaves a reader in the text of the page. -/
theorem scans_inert (s : String) (h : Inert s) : Scans .text s [] .text := by
  unfold Inert at h
  unfold Scans
  generalize s.toList = cs at h ⊢
  induction cs with
  | nil => rfl
  | cons c cs ih =>
      rw [List.mem_cons, not_or] at h
      have hstep : Place.text.after c = (.text, []) := by
        rw [Place.after, if_neg fun hc => h.1 hc.symm]
      rw [scan_cons, hstep, ih h.2, List.append_nil]

/-- A text without quotation marks goes on with a value. -/
theorem scans_value (name read : List Char) (s : String) (h : '"' ∉ s.toList) :
    Scans (.value name read) s [] (.value name (read ++ s.toList)) := by
  unfold Scans
  generalize s.toList = cs at h ⊢
  induction cs generalizing read with
  | nil => rw [scan, List.append_nil]
  | cons c cs ih =>
      rw [List.mem_cons, not_or] at h
      have hstep : (Place.value name read).after c = (.value name (read ++ [c]), []) := by
        rw [Place.after, if_neg fun hc => h.1 hc.symm]
      rw [scan_cons, hstep, ih _ h.2, List.append_assoc, List.singleton_append, List.nil_append]

/-- A value ends at the quotation mark behind it. -/
theorem scans_quote (name read : List Char) :
    Scans (.value name read) "\"" [(String.ofList name, String.ofList read)] (.tag []) :=
  rfl

section Attributes

variable {p q : Place} {out more : List (String × String)} {tail : String}

/-- An escaped text is read between the beginning and the rest of a value, because it has no
    quotation mark that could end it. -/
theorem scans_attribute (name start v rest front : String)
    (hfront : Scans p front out (.value name.toList start.toList)) (hrest : '"' ∉ rest.toList)
    (htail : Scans (.tag []) tail more q) :
    Scans p (front ++ escape v ++ (rest ++ "\"" ++ tail))
      (out ++ (name, start ++ escape v ++ rest) :: more) q := by
  -- The reader stays in the value up to the quotation mark behind `rest`.
  have hquote : '"' ∉ (escape v).toList := not_mem_escape '"' (by decide) v
  have hvalue := (hfront.append (scans_value _ _ _ hquote)).append (scans_value _ _ rest hrest)
  have hend := (hvalue.append (scans_quote _ _)).append htail
  simpa only [String.append_assoc, List.append_nil, List.append_assoc, List.singleton_append,
    ← String.toList_append, String.ofList_toList] using hend

/-- An escaped text is read as a whole value. -/
theorem scans_escaped (name v front : String) (hfront : Scans p front out (.value name.toList []))
    (htail : Scans (.tag []) tail more q) :
    Scans p (front ++ escape v ++ ("\"" ++ tail)) (out ++ (name, escape v) :: more) q := by
  have h := scans_attribute name "" v "" front hfront (by decide) htail
  rwa [String.empty_append, String.empty_append, String.append_empty] at h

end Attributes

/-- Pieces that begin and end in the text of a page are read one after another. -/
theorem scans_join {α : Type} (f : α → String) (out : α → List (String × String)) (xs : List α)
    (h : ∀ x ∈ xs, Scans .text (f x) (out x) .text) :
    Scans .text (String.join (xs.map f)) (xs.flatMap out) .text := by
  induction xs with
  | nil =>
      rw [List.map_nil, String.join_nil]
      exact scans_empty .text
  | cons x xs ih =>
      rw [List.map_cons, String.join_cons, List.flatMap_cons]
      exact Scans.append (h x List.mem_cons_self)
        (ih fun y hy => h y (List.mem_cons_of_mem x hy))

end Markup

end RunReport
