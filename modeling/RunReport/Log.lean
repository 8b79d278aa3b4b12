import RunReport.Text.Numeral

/-!
# Log Entries

What is noted while a report is made.

A note is an information, a warning or an error. The reader of a log chooses a level, and the log
then shows the notes of this level and of all graver ones. The two lowest levels are for notes that
are of no use to a reader of reports, so that no entry here has them.

## Main definitions

* `LogEntry`: A note.
* `LogLevel`: The reader's choice.
* `LogLevel.shows`: The notes that a level shows.
-/

namespace RunReport

/-- How grave a note is. -/
inductive Severity
  | error
  | warning
  | info
  deriving DecidableEq

namespace Severity

/-- The word for a severity. -/
def label : Severity → String
  | error => "ERROR"
  | warning => "WARN"
  | info => "INFO"

end Severity

/-- A note in a log. -/
structure LogEntry where
  severity : Severity
  message : String
  deriving DecidableEq

namespace LogEntry

/-- A note that something happened. -/
def info (message : String) : LogEntry :=
  ⟨.info, message⟩

/-- A note that something is odd. -/
def warning (message : String) : LogEntry :=
  ⟨.warning, message⟩

/-- A note that something failed. -/
def error (message : String) : LogEntry :=
  ⟨.error, message⟩

/-- A note with its severity in front. -/
def text (e : LogEntry) : String :=
  e.severity.label ++ " " ++ e.message

end LogEntry

/-- The level from which on notes are shown. -/
inductive LogLevel
  | off
  | error
  | warn
  | info
  | debug
  | trace
  deriving DecidableEq

namespace LogLevel

instance : Inhabited LogLevel := ⟨info⟩

/-- All levels. -/
def all : List LogLevel :=
  [off, error, warn, info, debug, trace]

/-- The name of a level. -/
def label : LogLevel → String
  | off => "Off"
  | error => "Error"
  | warn => "Warn"
  | info => "Info"
  | debug => "Debug"
  | trace => "Trace"

/-- The name of a level in capitals. -/
def capitals (l : LogLevel) : String :=
  String.ofList (l.label.toList.map Char.toUpper)

/-- The level of a name, in any case of its ASCII letters. -/
def ofWord? (word : String) : Option LogLevel :=
  all.find? fun l => l.label.toList.map Char.toLower = word.toList.map Char.toLower

/-- Whether a level shows notes of a severity. -/
def shows : LogLevel → Severity → Bool
  | off, _ => false
  | error, s => s == .error
  | warn, s => s != .info
  | _, _ => true

end LogLevel

end RunReport
