import RunReport.Manifest.Yaml.Scalar

/-!
# YAML

Reading a YAML text as settings.

Tables and lists are written by indentation, or in brackets. The entries of a table start in one
column, and what belongs to an entry stands behind it or in lines that are indented more. A list
may also start in the column of the table it belongs to. A text holds at most one document;
anchors, tags and keys that are no scalars are not read.

## Main definitions

* `Yaml.node`: The value of an indented part.
* `Yaml.flow`: A value in brackets, or a scalar inside of one.
* `Yaml.read?`: The settings of a text.
-/

namespace RunReport

namespace Yaml

/-- The members of a table with one more entry; an entry whose key is no text is left out. -/
def addEntry (key : Setting) (value : Setting) (ms : List (String × Setting)) :
    List (String × Setting) :=
  match key with
  | .text s => Setting.insert s value ms
  | _ => ms

/-! ### Values in brackets -/

/-- A scalar inside of brackets. -/
def flowScalar (c : Cursor) : Step Setting :=
  match quoted c with
  | some (s, after) => some (.text s, after)
  | none =>
    match plain true 0 c with
    | some (s, after) => some (ofPlain s, after)
    | none => none

/-- Whether the value of a key follows inside of brackets. -/
def flowValueFollows (c : Cursor) : Bool :=
  match c.rest with
  | ':' :: _ => true
  | _ => false

mutual

/-- A value inside of brackets. -/
def flow : Nat → Cursor → Step Setting
  | 0, _ => none
  | n + 1, c =>
    match c.rest with
    | '[' :: _ =>
      match flowItems n [] (c.drop 1).next with
      | some (xs, after) => some (.list true xs, after)
      | none => none
    | '\x7b' :: _ =>
      match flowMembers n [] (c.drop 1).next with
      | some (ms, after) => some (.table true ms, after)
      | none => none
    | _ => flowScalar c

/-- The value behind a key inside of brackets, or nothing if there is none. -/
def flowValue : Nat → Cursor → Step Setting
  | 0, _ => none
  | n + 1, c =>
    if flowValueFollows c then
      let v := (c.drop 1).next
      match v.rest with
      | ',' :: _ => some (.nothing true, v)
      | ']' :: _ => some (.nothing true, v)
      | '\x7d' :: _ => some (.nothing true, v)
      | _ => flow n v
    else some (.nothing true, c)

/-- The items of a list up to its closing bracket. -/
def flowItems : Nat → List Setting → Cursor → Step (List Setting)
  | 0, _, _ => none
  | n + 1, done, c =>
    match c.rest with
    | ']' :: _ => some (done, c.drop 1)
    | _ =>
      match flow n c with
      | none => none
      | some (x, after) =>
        let after := after.next
        let item := if flowValueFollows after then
          (flowValue n after).map fun (v, rest) => (.table true (addEntry x v []), rest.next)
        else some (x, after)
        match item with
        | some (y, ⟨k, ',' :: rest⟩) => flowItems n (done ++ [y]) (Cursor.next ⟨k + 1, rest⟩)
        | some (y, ⟨k, ']' :: rest⟩) => some (done ++ [y], ⟨k + 1, rest⟩)
        | _ => none

/-- The members of a table up to its closing brace. -/
def flowMembers : Nat → List (String × Setting) → Cursor → Step (List (String × Setting))
  | 0, _, _ => none
  | n + 1, done, c =>
    match c.rest with
    | '\x7d' :: _ => some (done, c.drop 1)
    | _ =>
      match flow n c with
      | none => none
      | some (key, after) =>
        match flowValue n after.next with
        | none => none
        | some (v, after) =>
          let ms := addEntry key v done
          match after.next with
          | ⟨k, ',' :: rest⟩ => flowMembers n ms (Cursor.next ⟨k + 1, rest⟩)
          | ⟨k, '\x7d' :: rest⟩ => some (ms, ⟨k + 1, rest⟩)
          | _ => none

end

/-! ### Indented values -/

/-- Whether an item of a list starts here. -/
def startsItem (c : Cursor) : Bool :=
  match c.rest with
  | '-' :: rest => endsWord rest
  | _ => false

/-- A scalar on one line, as a key is. -/
def keyScalar (c : Cursor) : Step Setting :=
  match quoted c with
  | some (s, after) =>
    if (c.rest.take (c.rest.length - after.rest.length)).contains '\n' then none
    else some (.text s, after)
  | none =>
    if startsPlain false c.rest then
      let part := plainPart false c
      some (ofPlain (String.ofList part), c.drop part.length)
    else none

/-- A key, and what follows its colon. -/
def key (c : Cursor) : Step Setting :=
  match keyScalar c with
  | some (k, after) =>
    let after := after.skipGaps
    match after.rest with
    | ':' :: rest => if endsWord rest then some (k, after.drop 1) else none
    | _ => none
  | none => none

/-- A value that is neither a list nor a table by indentation, with the end of its line. The lines
    of a scalar have to start in a column. -/
def inlineValue (fuel column : Nat) (c : Cursor) : Step Setting :=
  let value := match c.rest with
    | '[' :: _ => flow fuel c
    | '\x7b' :: _ => flow fuel c
    | '|' :: _ => (block column c).map fun (s, after) => (.text s, after)
    | '>' :: _ => (block column c).map fun (s, after) => (.text s, after)
    | '"' :: _ => (quoted c).map fun (s, after) => (.text s, after)
    | '\'' :: _ => (quoted c).map fun (s, after) => (.text s, after)
    | _ => (plain false column c).map fun (s, after) => (ofPlain s, after)
  match value with
  | none => none
  | some (v, after) =>
    if after.column = 0 then some (v, after)
    else
      match after.finishLine with
      | some after => some (v, after)
      | none => none

mutual

/-- The value that starts at a cursor; further lines have to start in a column. -/
def node : Nat → Nat → Cursor → Step Setting
  | 0, _, _ => none
  | n + 1, column, c =>
    if startsItem c then
      match listItems n c.column [] c with
      | some (xs, after) => some (.list true xs, after)
      | none => none
    else if (key c).isSome then
      match tableEntries n c.column [] c with
      | some (ms, after) => some (.table true ms, after)
      | none => none
    else inlineValue n column c

/-- The value of an entry of a table in a column, behind its colon. -/
def entryValue : Nat → Nat → Cursor → Step Setting
  | 0, _, _ => none
  | n + 1, column, c =>
    match c.finishLine with
    | none =>
      let v := c.skipGaps
      if startsItem v then none else inlineValue n (column + 1) v
    | some e =>
      let v := e.next
      if v.isEnd ∨ v.column < column then some (.nothing true, v)
      else if v.column = column then
        if startsItem v then
          match listItems n column [] v with
          | some (xs, after) => some (.list true xs, after)
          | none => none
        else some (.nothing true, v)
      else node n (column + 1) v

/-- The entries of a table in a column. -/
def tableEntries : Nat → Nat → List (String × Setting) → Cursor → Step (List (String × Setting))
  | 0, _, _, _ => none
  | n + 1, column, done, c =>
    match key c with
    | none => none
    | some (k, after) =>
      match entryValue n column after with
      | none => none
      | some (v, after) =>
        let ms := addEntry k v done
        let c := after.next
        if c.isEnd ∨ c.column < column then some (ms, c)
        else if c.column = column then tableEntries n column ms c
        else none

/-- The items of a list in a column. -/
def listItems : Nat → Nat → List Setting → Cursor → Step (List Setting)
  | 0, _, _, _ => none
  | n + 1, column, done, c =>
    let item := match (c.drop 1).finishLine with
      | none => node n (column + 1) (c.drop 1).skipGaps
      | some e =>
        let v := e.next
        if v.isEnd ∨ v.column ≤ column then some (.nothing true, v) else node n (column + 1) v
    match item with
    | none => none
    | some (x, after) =>
      let c := after.next
      if !c.isEnd && c.column == column && startsItem c then listItems n column (done ++ [x]) c
      else some (done ++ [x], c)

end

/-! ### Documents -/

/-- Whether nothing but the end of a document follows. -/
def isDone (c : Cursor) : Bool :=
  if c.rest.isEmpty then true
  else if c.isMarker && "...".toList.isPrefixOf c.rest then
    match (c.drop 3).finishLine with
    | some e => e.next.rest.isEmpty
    | none => false
  else false

/-- At the content of the first document. -/
def documentStart (c : Cursor) : Cursor :=
  if c.isMarker && "---".toList.isPrefixOf c.rest then
    match (c.drop 3).finishLine with
    | some e => e.next
    | none => (c.drop 3).skipGaps
  else c

/-- A text with line feeds as its only line ends. -/
def withLineFeeds : List Char → List Char
  | [] => []
  | '\r' :: '\n' :: cs => '\n' :: withLineFeeds cs
  | c :: cs => (if c = '\r' then '\n' else c) :: withLineFeeds cs

/-- The settings of a text; a text that is no table has none. -/
def read? (text : String) : Option (List (String × Setting)) :=
  let cs := withLineFeeds text.toList
  let c := documentStart (Cursor.next ⟨0, cs⟩)
  if isDone c then some []
  else if c.isMarker then none
  else
    match node (4 * cs.length + 8) 0 c with
    | some (v, after) => if isDone after.next then some v.members else none
    | none => none

end Yaml

end RunReport
