import RunReport.Store.Path

/-!
# Workspaces

The files that a report is made from, and those that it writes.

A directory is there if a file lies in it, or if it is known to be there. A file can be written
where there is a directory, and takes the place of one that was there.

## Main definitions

* `Workspace`: Files by path, and further directories.
* `FileFault`: Why a file can be neither read nor written.
* `Workspace.read`, `Workspace.write`: The contents of a file.
* `Workspace.changedSince`: The files that were written.
-/

namespace RunReport

/-- Why a file can be neither read nor written. -/
inductive FileFault
  | notFound
  | notADirectory
  | isADirectory
  deriving DecidableEq

/-- What is said of a fault. -/
def FileFault.message : FileFault → String
  | notFound => "No such file or directory (os error 2)"
  | notADirectory => "Not a directory (os error 20)"
  | isADirectory => "Is a directory (os error 21)"

/-- Files by path, and directories in which no file need lie. -/
structure Workspace where
  files : List (String × List UInt8) := []
  directories : List String := []

namespace Workspace

/-- The contents of the file with some parts. -/
def contents? (w : Workspace) (parts : List String) : Option (List UInt8) :=
  (w.files.find? fun f => Path.normal f.1 = parts).map (·.2)

/-- Whether there is a file at a path. -/
def hasFile (w : Workspace) (path : String) : Bool :=
  (w.contents? (Path.normal path)).isSome

/-- Whether some parts name a directory. -/
def isDirectory (w : Workspace) (parts : List String) : Bool :=
  parts.isEmpty || w.directories.any (fun d => Path.normal d == parts) ||
    w.files.any fun f =>
      let name := Path.normal f.1
      parts.length < name.length && name.take parts.length == parts

/-- Whether one of the directories on a path is a file. -/
def leadsThroughFile (w : Workspace) (parts : List String) : Bool :=
  (List.range parts.length).any fun n => (w.contents? (parts.take n)).isSome

/-- The fault of a path without a file. -/
def faultAt (w : Workspace) (path : String) : FileFault :=
  let parts := Path.normal path
  if path = "" then .notFound
  else if w.isDirectory parts then .isADirectory
  else if w.leadsThroughFile parts then .notADirectory
  else .notFound

/-- The contents of the file at a path. -/
def read (w : Workspace) (path : String) : Except FileFault (List UInt8) :=
  match w.contents? (Path.normal path) with
  | some bytes => .ok bytes
  | none => .error (w.faultAt path)

/-- A workspace with a file at a path. -/
def write (w : Workspace) (path : String) (bytes : List UInt8) : Except FileFault Workspace :=
  let parts := Path.normal path
  if w.hasFile path ∨
      path ≠ "" ∧ parts ≠ [] ∧ ¬w.isDirectory parts ∧ w.isDirectory parts.dropLast then
    .ok { w with files := (path, bytes) :: w.files.filter fun f => Path.normal f.1 ≠ parts }
  else .error (w.faultAt path)

/-- The files that are not the same in an earlier workspace. -/
def changedSince (w before : Workspace) : List (String × List UInt8) :=
  w.files.filter fun f => before.contents? (Path.normal f.1) ≠ some f.2

end Workspace

end RunReport
