import RunReport.Json.Basic

/-!
# Settings

What a manifest says, whichever format it is written in.

A setting is a value, a list or a table of settings. The name of a setting at the top of a file may
be a path into tables and lists, such as `sources.tests`, and tables that are given in several
parts are merged. A setting remembers whether it stands in the file as it is: tables that were
merged, and what had to be added to reach a place on a path, do not.

## Main definitions

* `Setting`: Values, lists and tables.
* `Setting.Step`, `Setting.path?`: Names that are paths.
* `Setting.put`: A table with one more setting at the end of a path.
* `Setting.ofFile`: All settings of a file.
* `Setting.ofJson`: A JSON value as a setting.
-/

namespace RunReport

/-- What a manifest says under a name. For settings that need not stand in the file it is kept
    whether they do. -/
inductive Setting
  | nothing (inFile : Bool)
  | flag (b : Bool)
  | int (i : Int)
  | real (x : Binary64)
  | text (s : String)
  | list (inFile : Bool) (items : List Setting)
  | table (inFile : Bool) (members : List (String × Setting))

namespace Setting

instance : Inhabited Setting := ⟨nothing false⟩

/-- The setting of a name. -/
def member? (name : String) (members : List (String × Setting)) : Option Setting :=
  (members.find? (·.1 = name)).map (·.2)

/-- Members with a setting for a name; it takes the place of another one. -/
def insert (name : String) (value : Setting) (members : List (String × Setting)) :
    List (String × Setting) :=
  members.filter (·.1 ≠ name) ++ [(name, value)]

/-- The members of a table; other settings have none. -/
def members : Setting → List (String × Setting)
  | table _ ms => ms
  | _ => []

/-- The items of a list; other settings have none. -/
def items : Setting → List Setting
  | list _ xs => xs
  | _ => []

/-- Whether a table stands in the file as it is. -/
def isTableInFile : Setting → Bool
  | table inFile _ => inFile
  | _ => false

/-- Whether a list stands in the file as it is. -/
def isListInFile : Setting → Bool
  | list inFile _ => inFile
  | _ => false

mutual

/-- A setting that takes the place of another. A table is merged into it, name by name. -/
def merged (old : Option Setting) : Setting → Setting
  | table _ ms =>
    table ((old.map isTableInFile).getD false) (mergedMembers ((old.map members).getD []) ms)
  | s => s

/-- Members with others merged into them. -/
def mergedMembers (done : List (String × Setting)) :
    List (String × Setting) → List (String × Setting)
  | [] => done
  | (name, value) :: rest =>
    mergedMembers (insert name (merged (member? name done) value) done) rest

end

/-- A step on a path: into a table or into a list. -/
inductive Step
  | name (s : String)
  | index (n : Nat)
  deriving DecidableEq

/-- A list with a setting at an index; missing items in between are nothing. -/
def setItem (index : Nat) (value : Setting) (xs : List Setting) : List Setting :=
  (xs ++ List.replicate (index + 1 - xs.length) (nothing false)).set index value

/-- A setting with another one put at the end of a path. -/
def put (value : Setting) (old : Option Setting) : List Step → Setting
  | [] => merged old value
  | .name s :: rest =>
    let ms := (old.map members).getD []
    table ((old.map isTableInFile).getD false) (insert s (put value (member? s ms) rest) ms)
  | .index n :: rest =>
    let xs := (old.map items).getD []
    -- An item is replaced as a whole, and only what lies below it is merged.
    let item := if rest.isEmpty then value else put value xs[n]? rest
    list ((old.map isListInFile).getD false) (setItem n item xs)

/-! ### Paths -/

/-- Whether a character may stand in a name on a path. -/
def isNameChar (c : Char) : Bool :=
  c.isAlphanum || c = '_' || c = '-' || c = ' '

/-- The steps behind the first name of a path; the fuel is the length of the text. -/
def steps? : Nat → List Char → Option (List Step)
  | _, [] => some []
  | 0, _ => none
  | n + 1, '.' :: cs =>
    let name := cs.takeWhile isNameChar
    if name.isEmpty then none
    else (steps? n (cs.dropWhile isNameChar)).map (.name (String.ofList name) :: ·)
  | n + 1, '[' :: cs =>
    match Numeral.valueOf? (cs.takeWhile Char.isDigit), cs.dropWhile Char.isDigit with
    | some i, ']' :: rest => (steps? n rest).map (.index i :: ·)
    | _, _ => none
  | _, _ => none

/-- The path that a name is. -/
def path? (name : String) : Option (List Step) :=
  let cs := name.toList
  let first := cs.takeWhile isNameChar
  if first.isEmpty then none
  else (steps? cs.length (cs.dropWhile isNameChar)).map (.name (String.ofList first) :: ·)

/-- All settings of a file: those at its top are put where their names lead. -/
def ofFile (top : List (String × Setting)) : List (String × Setting) :=
  members <| top.foldl
    (fun root m => put m.2 (some root) ((path? m.1).getD [.name m.1])) (table false [])

/-! ### From JSON -/

/-- A number as a setting; one beyond the integers of 64 bits is rounded. -/
def ofNumber : Json.Number → Setting
  | .natural n => if n < Word.signedLimit then int n else real (Binary64.ofInt n)
  | .negative n => int (-(n : Int))
  | .real x => real x

mutual

/-- A JSON value as a setting. -/
def ofJson : Json → Setting
  | .null => nothing true
  | .bool b => flag b
  | .number n => ofNumber n
  | .string s => text s
  | .array xs => list true (ofItems xs)
  | .object ms => table true (ofMembers [] ms)

/-- The items of an array as settings. -/
def ofItems : List Json → List Setting
  | [] => []
  | v :: vs => ofJson v :: ofItems vs

/-- The members of an object as settings; the last one of a name counts. -/
def ofMembers (done : List (String × Setting)) : List (String × Json) → List (String × Setting)
  | [] => done
  | (name, v) :: rest => ofMembers (insert name (ofJson v) done) rest

end

end Setting

end RunReport
