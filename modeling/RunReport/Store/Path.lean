import RunReport.Version

/-!
# Paths

Names of files.

The parts of a path are put between slashes, and a part that is a single point stands for nothing.
The last part is the name of the file, and what follows its last point is the extension; a point at
the very start of a name begins no extension.

## Main definitions

* `Path.parts`: The parts of a path.
* `Path.extension?`, `Path.withExtension`: The extension, and a path with another one.
* `Path.normal`: The parts of a path with the steps upward taken.
-/

namespace RunReport

namespace Path

/-- The parts of a path that stand for something. -/
def parts (path : String) : List String :=
  ((segments '/' path.toList).map String.ofList).filter fun p => p ≠ "" ∧ p ≠ "."

/-- Whether a path starts at the root of all files. -/
def isAbsolute (path : String) : Bool :=
  path.toList.head? == some '/'

/-- The name of the file at the end of a path. -/
def fileName? (path : String) : Option String :=
  (parts path).getLast?.filter (· ≠ "..")

/-- A file name before and after the point of its extension. -/
def split (name : String) : String × Option String :=
  match splitLast '.' name.toList with
  | some (c :: front, last) => (String.ofList (c :: front), some (String.ofList last))
  | _ => (name, none)

/-- The extension of a path. -/
def extension? (path : String) : Option String :=
  (fileName? path).bind fun name => (split name).2

/-- Parts as a path. -/
def ofParts (isAbsolute : Bool) (parts : List String) : String :=
  (if isAbsolute then "/" else "") ++ "/".intercalate parts

/-- A path with another extension, or with one more if it has none. -/
def withExtension (path extension : String) : String :=
  match fileName? path with
  | none => path
  | some name =>
    ofParts (isAbsolute path) ((parts path).dropLast ++ [(split name).1 ++ "." ++ extension])

/-- A path without the parts that stand for nothing. -/
def shown (path : String) : String :=
  ofParts (isAbsolute path) (parts path)

/-- One more part of a path; a step upward takes the last one back. -/
def descend (done : List String) (part : String) : List String :=
  if part = ".." ∧ done ≠ [] ∧ done.getLast? ≠ some ".." then done.dropLast else done ++ [part]

/-- The parts of a path with the steps upward taken; an absolute path starts with a slash. -/
def normal (path : String) : List String :=
  (if isAbsolute path then ["/"] else []) ++ (parts path).foldl descend []

end Path

end RunReport
