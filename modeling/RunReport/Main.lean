import Std.Time.Format
import Std.Time.Zoned
import RunReport.Libraries
import RunReport.Session

/-!
# The Program

Reads the files that a session needs, and carries out what it decides.

All decisions are made by `Session.ofWords` on a picture of the files. This module only takes the
picture: the manifest under all its possible names, the sources that it names, and the directories
in which files may be written. Then it writes, prints and logs what the session says.

## Main definitions

* `main`: The program.
-/

namespace RunReport

namespace Program

/-- A file with its contents, if it is there. -/
def contents? (path : String) : IO (Option (String × List UInt8)) :=
  try
    return some (path, (← IO.FS.readBinFile path).toList)
  catch _ => return none

/-- Whether there is a directory at a path. -/
def isDirectory (path : String) : IO Bool := do
  ((← IO.currentDir) / path).isDir

/-- The directory of a path. -/
def parent (path : String) : String :=
  match (Path.parts path).dropLast with
  | [] => if Path.isAbsolute path then "/" else "."
  | parts => Path.ofParts (Path.isAbsolute path) parts

/-- The files and directories among some paths and the directories of these. -/
def picture (paths : List String) : IO Workspace := do
  let files ← paths.filterMapM contents?
  let directories ← (paths ++ paths.map parent).filterM isDirectory
  return { files, directories }

/-- The files that the sources of a manifest name. -/
def sourcePaths (s : Sources) : List String :=
  [s.tests, s.releases, s.test, s.lastPass, s.lastFail].filterMap id

/-- The files that options name, and those that their manifest names. -/
def workspace (o : Options) : IO Workspace := do
  let named := Manifest.candidates o.file ++ o.output.toList ++ o.logOutputFile.toList
  let w ← picture named
  match Manifest.load w o.file with
  | .ok m => picture (named ++ sourcePaths m.sources)
  | .error _ => return w

/-- The variables of the environment that are asked for. -/
def environment : IO Environment :=
  (OptionName.all.filterMap OptionName.envName?).filterMapM fun name => do
    return (← IO.getEnv name).map fun value => (name, value)

/-- A note with the time of day in front. -/
def stamped (e : LogEntry) : IO String := do
  let now ← Std.Time.PlainDateTime.now
  let time := now.format "'['uuuu-MM-dd']['HH:mm:ss']'"
  return time ++ "[testboard][" ++ e.severity.label ++ "] " ++ e.message ++ "\n"

/-- Appends a text to a file. -/
def append (path text : String) : IO Unit :=
  IO.FS.withFile path .append fun h => h.putStr text

/-- Writes, prints and logs what a session says. -/
def carryOut (before : Workspace) (logOutputFile : Option String) (s : Session) : IO Unit := do
  (s.files.changedSince before).forM fun (path, bytes) =>
    IO.FS.writeBinFile path ⟨bytes.toArray⟩
  let text := String.join (← s.log.mapM stamped)
  let stderr ← IO.getStderr
  stderr.putStr (s.complaint ++ text)
  logOutputFile.forM fun path => do
    if text ≠ "" then append path text
  let stdout ← IO.getStdout
  stdout.putStr s.printed

end Program

end RunReport

open RunReport in
/-- Makes the report that the command line asks for. -/
def main (words : List String) : IO UInt32 := do
  let env ← Program.environment
  let options := (Options.read words env).toOption
  let w ← match options with
    | some o => Program.workspace o
    | none => pure {}
  let s := Session.ofWords w words env
  Program.carryOut w (options.bind (·.logOutputFile)) s
  return s.code
