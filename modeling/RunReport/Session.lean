import RunReport.Manifest.File
import RunReport.Options
import RunReport.Report

/-!
# Sessions

One run of the program, from its command line to what it leaves behind.

A session makes one report. The page is printed, or written to a file if the user names one. The
notes go to the error stream, and also to the end of a file if the user names one; this file is
opened first, and without it nothing is done.

## Main definitions

* `Options.run`: The report that options ask for.
* `Session`: What a run leaves behind.
* `Session.ofWords`: The session of a command line in an environment.
-/

namespace RunReport

variable [HostLibrary] [PatternLibrary] [TemplateLibrary]

namespace Options

/-- A report that was made: its notes, its page, and the files afterwards. -/
structure Result where
  notes : List LogEntry
  page : Except Failure String
  files : Workspace

/-- The page at the place where the user wants it. -/
def deliver (o : Options) (w : Workspace) (notes : List LogEntry) (page : String) : Result :=
  match o.output with
  | none => { notes, page := .ok page, files := w }
  | some path =>
    match w.write path (Utf8.encode page.toList) with
    | .ok w =>
      { notes := notes ++ [.info ("Report written to " ++ path)], page := .ok page, files := w }
    | .error f => { notes, page := .error (.file f), files := w }

/-- The report that options ask for. -/
def run (o : Options) (w : Workspace) : Result :=
  match Manifest.load w o.file with
  | .error f => { notes := [], page := .error (.manifest f), files := w }
  | .ok m =>
    match Report.make w { m with report := o.report.getD m.report } o.query with
    | (notes, .error f) => { notes, page := .error f, files := w }
    | (notes, .ok page) => o.deliver w notes page

end Options

/-- What a run of the program leaves behind: its exit code, what it printed, what it complained of
    outside the log, the notes that were shown, and all files. -/
structure Session where
  code : UInt32
  printed : String := ""
  complaint : String := ""
  log : List LogEntry := []
  files : Workspace

namespace Session

/-- The name and the version of the program. -/
def version : String := "testboard 0.0.1\n"

/-- How the program is used. -/
def usage : String :=
  "testboard [-L LEVEL] [-O LOG] [-q QUERY] [-o OUTPUT] [-r REPORT] MANIFEST\n"

/-- The exit code of a run that failed, also for a command line that cannot be read. -/
def failed : UInt32 := 1

/-- The exit code of a run that could not open its log. -/
def unlogged : UInt32 := 2

/-- The session of a command line that gives no options. -/
def ofFault (w : Workspace) : OptionsFault → Session
  | .helpAsked => { code := 0, printed := usage, files := w }
  | .versionAsked => { code := 0, printed := version, files := w }
  | f => { code := failed, complaint := "error: " ++ f.message ++ "\n", files := w }

/-- The files with the log opened at its end. -/
def openLog (w : Workspace) : Option String → Except FileFault Workspace
  | none => .ok w
  | some path => w.write path (((w.read path).toOption).getD [])

/-- The session of some options. -/
def ofOptions (w : Workspace) (o : Options) : Session :=
  match openLog w o.logOutputFile with
  | .error f =>
    { code := unlogged
      complaint := "Failed to initialize logging: " ++ f.message ++ "\n"
      files := w }
  | .ok w =>
    let start := LogEntry.info
      ("Logging level " ++ o.level.capitals ++ " enabled")
    let result := o.run w
    let shown (notes : List LogEntry) : List LogEntry :=
      notes.filter fun e => o.level.shows e.severity
    match result.page with
    | .ok page =>
      { code := 0
        printed := if o.output.isSome then "" else page
        log := shown (start :: result.notes)
        files := result.files }
    | .error f =>
      { code := failed
        log := shown (start :: result.notes ++
          [.error ("Failed to render report: " ++ f.message)])
        files := result.files }

/-- The session of a command line in an environment. -/
def ofWords (w : Workspace) (words : List String) (env : Environment) : Session :=
  match Options.read words env with
  | .ok o => ofOptions w o
  | .error f => ofFault w f

end Session

end RunReport
