import RunReport.CommandLine

/-!
# Options

What the user of the program asks for.

Options come from the command line, and two of them also from the environment. An option counts
once, and the value on the command line before the one of the environment; still, every value must
be one that the option can have.

## Main definitions

* `Options`: The choices of the user.
* `Options.read`: The options of a command line in an environment.
-/

namespace RunReport

/-- The variables of an environment. -/
abbrev Environment := List (String × String)

namespace OptionName

/-- The variable of the environment that an option may come from. -/
def envName? : OptionName → Option String
  | logging => some "LOG_LEVEL"
  | logOutputFile => some "LOG_OUTPUT_FILE"
  | _ => none

/-- The value of an option that is not given. -/
def default? : OptionName → Option String
  | query => some ""
  | _ => none

/-- Whether an option can have a value. -/
def accepts : OptionName → String → Bool
  | logging, v => (LogLevel.ofWord? v).isSome
  | report, v => (ReportKind.ofWord? v).isSome
  | _, _ => true

end OptionName

namespace CommandLine

/-- The values of an option, the one that counts first. -/
def allValuesOf (line : CommandLine) (env : Environment) (name : OptionName) : List String :=
  let inEnvironment := name.envName?.bind fun v => (env.find? (·.1 = v)).map (·.2)
  let given := line.valuesOf name ++ inEnvironment.toList
  if given.isEmpty then name.default?.toList else given

/-- Checks how an option was used. -/
def check (line : CommandLine) (env : Environment) (name : OptionName) :
    Except OptionsFault Unit :=
  let values := line.allValuesOf env name
  if name ∈ line.used ∧ values = [] then .error .valueMissing
  else if ¬values.all name.accepts then .error .valueRefused
  else if 1 < line.used.count name then .error .repeated
  else .ok ()

/-- Checks that the option at the end of a command line has a value. -/
def checkLast (line : CommandLine) (env : Environment) : Except OptionsFault Unit :=
  match line.awaiting with
  | some name => if line.allValuesOf env name = [] then .error .valueMissing else .ok ()
  | none => .ok ()

end CommandLine

/-- The choices of the user. -/
structure Options where
  file : String
  logging : Option LogLevel := none
  logOutputFile : Option String := none
  query : String := ""
  output : Option String := none
  report : Option ReportKind := none
  deriving DecidableEq

namespace Options

/-- The level from which on notes are shown. -/
def level (o : Options) : LogLevel :=
  o.logging.getD default

/-- The options of a command line in an environment. -/
def read (words : List String) (env : Environment) : Except OptionsFault Options := do
  let line ← CommandLine.read words
  match line.file with
  | none => .error .fileMissing
  | some file =>
    line.checkLast env
    OptionName.all.forM (line.check env)
    let value? (name : OptionName) : Option String := (line.allValuesOf env name).head?
    return {
      file
      logging := (value? .logging).bind LogLevel.ofWord?
      logOutputFile := value? .logOutputFile
      query := (value? .query).getD ""
      output := value? .output
      report := (value? .report).bind ReportKind.ofWord? }

end Options

end RunReport
