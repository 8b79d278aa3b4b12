import RunReport.Log
import RunReport.Manifest.Basic

/-!
# Command Lines

The words of a command line as a file and options.

An option has a name after two dashes, or a letter after one. Its value follows in the same word,
with or without an equals sign after the letter, or it is the next word unless that is an option
itself. After a word of two dashes all words are files. Only one file can be given.

## Main definitions

* `OptionName`: The options, with their names and letters.
* `OptionsFault`: What can be wrong with a command line.
* `CommandLine`: The file and the options of a command line.
* `CommandLine.read`: The command line that words write.
-/

namespace RunReport

/-- The options; each has a value. -/
inductive OptionName
  | logging
  | logOutputFile
  | query
  | output
  | report
  deriving DecidableEq

namespace OptionName

/-- All options. -/
def all : List OptionName :=
  [logging, logOutputFile, query, output, report]

/-- The name of an option. -/
def name : OptionName → String
  | logging => "logging"
  | logOutputFile => "log-output-file"
  | query => "query"
  | output => "output"
  | report => "report"

/-- The letter of an option. -/
def letter : OptionName → Char
  | logging => 'L'
  | logOutputFile => 'O'
  | query => 'q'
  | output => 'o'
  | report => 'r'

end OptionName

/-- Why a command line gives no options. The first two are no faults: help or the version was
    asked for. -/
inductive OptionsFault
  | helpAsked
  | versionAsked
  | unknownWord
  | fileMissing
  | valueMissing
  | valueRefused
  | repeated
  deriving DecidableEq

/-- What is said of a fault. -/
def OptionsFault.message : OptionsFault → String
  | helpAsked => "help was asked for"
  | versionAsked => "the version was asked for"
  | unknownWord => "there is a word too much, or an option that is not known"
  | fileMissing => "the manifest is missing"
  | valueMissing => "an option has no value"
  | valueRefused => "an option has a value that it cannot have"
  | repeated => "an option is given twice"

/-- A command line as far as it was read: its file, the options that were used, and their values.
    An option that had no value yet may get the next word. -/
structure CommandLine where
  file : Option String := none
  used : List OptionName := []
  values : List (OptionName × String) := []
  awaiting : Option OptionName := none
  onlyFiles : Bool := false
  deriving DecidableEq

namespace CommandLine

/-- A command line with a file. -/
def addFile (line : CommandLine) (word : String) : Except OptionsFault CommandLine :=
  match line.file with
  | none => .ok { line with file := some word }
  | some _ => .error .unknownWord

/-- A command line with an option, which awaits a value unless it has one. -/
def addOption (line : CommandLine) (name : OptionName) (value : Option String) : CommandLine :=
  { line with
    used := line.used ++ [name]
    values := line.values ++ (value.map fun v => (name, v)).toList
    awaiting := if value.isSome then none else some name }

/-- A command line with the value that was awaited. -/
def addValue (line : CommandLine) (name : OptionName) (word : String) : CommandLine :=
  { line with values := line.values ++ [(name, word)], awaiting := none }

/-- A value without the equals signs in front of it. -/
def valueText (cs : List Char) : String :=
  String.ofList (cs.dropWhile (· = '='))

/-- The option of a name, with the value behind the name. -/
def named (cs : List Char) : Except OptionsFault (OptionName × Option String) :=
  let name := String.ofList (cs.takeWhile (· ≠ '='))
  let value := match cs.dropWhile (· ≠ '=') with
    | [] => none
    | rest => some (valueText rest)
  match OptionName.all.find? (·.name = name) with
  | some o => .ok (o, value)
  | none =>
    if name = "help" then .error .helpAsked
    else if name = "version" then .error .versionAsked
    else .error .unknownWord

/-- The option of a letter, with the value behind the letter. -/
def lettered (c : Char) (rest : List Char) : Except OptionsFault (OptionName × Option String) :=
  match OptionName.all.find? (·.letter = c) with
  | some o => .ok (o, if rest.isEmpty then none else some (valueText rest))
  | none =>
    if c = 'h' then .error .helpAsked
    else if c = 'V' then .error .versionAsked
    else .error .unknownWord

/-- A command line with one more word. -/
def addWord (line : CommandLine) (word : String) : Except OptionsFault CommandLine :=
  if line.onlyFiles then line.addFile word
  else
    match word.toList, line.awaiting with
    | ['-', '-'], _ => .ok { line with onlyFiles := true }
    | '-' :: '-' :: cs, _ =>
      (named (cs.dropWhile (· = '-'))).map fun (o, value) => line.addOption o value
    | '-' :: c :: cs, _ => (lettered c cs).map fun (o, value) => line.addOption o value
    | _, some name => .ok (line.addValue name word)
    | _, none => line.addFile word

/-- The command line that words write. -/
def read (words : List String) : Except OptionsFault CommandLine :=
  words.foldlM addWord {}

/-- The values that were given to an option. -/
def valuesOf (line : CommandLine) (name : OptionName) : List String :=
  (line.values.filter (·.1 = name)).map (·.2)

end CommandLine

end RunReport
