/-!
# Build Versions

A version is a text of segments with a separator between them, such as `5.2-100-42`.

The short version leaves the last segment off, and the version number is the last segment of what
is left. A separator at the very start belongs to the first segment, so neither ever becomes empty
by cutting there. The merged version of two versions is made of the segments they share at the
front.

## Main definitions

* `VersionFormat`: The separator.
* `segments`, `joined`: A text cut at every separator, and put together again.
* `VersionFormat.short`, `VersionFormat.number`, `VersionFormat.merged`: The three derived versions.
-/

namespace RunReport

/-- How versions are written: with which character between their segments. -/
structure VersionFormat where
  separator : Char := '-'
  deriving DecidableEq

instance : Inhabited VersionFormat := ⟨{}⟩

/-- A text cut at every separator. -/
def segments (sep : Char) : List Char → List (List Char)
  | [] => [[]]
  | c :: cs =>
    if c = sep then [] :: segments sep cs
    else
      match segments sep cs with
      | s :: rest => (c :: s) :: rest
      | [] => [[c]]

/-- Segments with a separator between each two. -/
def joined (sep : Char) (parts : List (List Char)) : List Char :=
  List.intercalate [sep] parts

/-- What stands before and after the last separator. -/
def splitLast (sep : Char) : List Char → Option (List Char × List Char)
  | [] => none
  | c :: cs =>
    match splitLast sep cs with
    | some (front, last) => some (c :: front, last)
    | none => if c = sep then some ([], cs) else none

/-- The elements two lists share at the front. -/
def commonFront {α : Type} [DecidableEq α] : List α → List α → List α
  | a :: as, b :: bs => if a = b then a :: commonFront as bs else []
  | _, _ => []

namespace VersionFormat

/-- A version without its last segment; as it is if it has only one. -/
def shortChars (f : VersionFormat) (v : List Char) : List Char :=
  match splitLast f.separator v with
  | some (c :: front, _) => c :: front
  | _ => v

/-- The last segment of the short version. -/
def numberChars (f : VersionFormat) (v : List Char) : List Char :=
  match splitLast f.separator (f.shortChars v) with
  | some (_ :: _, last) => last
  | _ => f.shortChars v

/-- The segments two versions share at the front. -/
def mergedChars (f : VersionFormat) (v w : List Char) : List Char :=
  joined f.separator (commonFront (segments f.separator v) (segments f.separator w))

/-- A version without its last segment. -/
def short (f : VersionFormat) (v : String) : String :=
  String.ofList (f.shortChars v.toList)

/-- The last segment of the short version. -/
def number (f : VersionFormat) (v : String) : String :=
  String.ofList (f.numberChars v.toList)

/-- The segments two versions share at the front, joined. -/
def merged (f : VersionFormat) (v w : String) : String :=
  String.ofList (f.mergedChars v.toList w.toList)

end VersionFormat

end RunReport
