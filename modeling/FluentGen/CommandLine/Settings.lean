import FluentGen.CommandLine.Arguments
import FluentGen.CommandLine.ConfigurationFile
import FluentGen.CommandLine.Machine
/-!
# Settings

Each setting is taken from the last source that gives it a value: the defaults, the configuration
file, the environment, the arguments. Settings that do not exist are passed over. Only the value
that counts has to be of the right kind.

## Main definitions
* `Settings`: the decided settings of a run.
* `Settings.variableAssignment?`: the setting that an environment variable stands for.
* `Settings.ofAssignments`: decides the settings from what the sources give, in their order.
* `Settings.load`: the settings for some arguments and environment variables.
-/
namespace FluentGen

/-- The settings of a run. -/
structure Settings where
  /-- The path of the snapshot. -/
  input : String
  /-- The path of the directory for generated files. -/
  outDirectory : String
  failOnError : Bool
  jsonDiagnostics : Bool
  deriving DecidableEq, Repr

namespace Settings

/-- The path of the configuration file when the arguments name none. -/
def configurationPath : String := "buildsmith.toml"

/-- What the names of environment variables for settings start with, in any case of letters. -/
def variablePrefix : String := "buildsmith_"

/-- The key in an environment variable that is no setting but the filter of the log. -/
def logKey : String := "log"

/-- The setting that an environment variable stands for. Blanks around the name and around the key
in it do not count. A name with points in it stands for a table, which no setting takes. -/
def variableAssignment? (name value : String) : Option (String × SettingValue) :=
  let name := (Text.trim name).toLower.toList
  if variablePrefix.toList.isPrefixOf name then
    let key := Text.trim (String.ofList (name.drop variablePrefix.length))
    if key = logKey then none
    else match (key.toList.splitOn '.').map String.ofList with
      | [key] => if key.isEmpty then none else some (key, .ofText value)
      | keys => if keys.any String.isEmpty then none else some (keys.headD "", .other)
  else none

/-- The settings that environment variables stand for. -/
def ofVariables (environment : List (String × String)) : Assignments :=
  environment.filterMap fun (name, value) => variableAssignment? name value

/-- The text of a setting, if it has one. -/
def text? (assignments : Assignments) (key : String) : Except Failure (Option String) :=
  match assignments.value? key with
  | none => .ok none
  | some (.text text) => .ok (some text)
  | some _ => .error (.configuration (.wrongKind key))

/-- The flag of a setting, if it has one. -/
def flag? (assignments : Assignments) (key : String) : Except Failure (Option Bool) :=
  match assignments.value? key with
  | none => .ok none
  | some (.flag flag) => .ok (some flag)
  | some _ => .error (.configuration (.wrongKind key))

/-- Decides all settings. There is no default for the snapshot. -/
def ofAssignments (assignments : Assignments) : Except Failure Settings := do
  let input ← text? assignments "input"
  let outDirectory ← text? assignments "out_dir"
  let failOnError ← flag? assignments "fail_on_error"
  let jsonDiagnostics ← flag? assignments "json_diagnostics"
  match input with
  | none => .error .missingInput
  | some input =>
    return { input
             outDirectory := outDirectory.getD "generated"
             failOnError := failOnError.getD false
             jsonDiagnostics := jsonDiagnostics.getD false }

/-- Decides the settings from the text of the configuration file, if there is one, the environment
and the arguments. -/
def ofSources (file : Option String) (environment : List (String × String))
    (arguments : Arguments) : Except Failure Settings := do
  let fileAssignments ← match file with
    | none => .ok []
    | some text =>
      (ConfigurationFile.parse? text).elim (.error (.configuration .malformedFile)) .ok
  ofAssignments (fileAssignments ++ ofVariables environment ++ arguments.assignments)

variable {m : Type → Type} [Monad m] [Machine m]

/-- The path of the configuration file. A file that the arguments name has to exist. -/
def findConfiguration (arguments : Arguments) : ExceptT Failure m String := do
  match arguments.configuration with
  | none => return configurationPath
  | some path =>
    if ← (Machine.isFile path : m Bool) then return path
    else throw (.configurationNotFound path)

/-- The settings of a run. -/
def load (arguments : Arguments) (environment : List (String × String)) :
    ExceptT Failure m Settings := do
  let path ← findConfiguration arguments
  let file ← (Machine.search? path : m (Option String))
  liftExcept (ofSources file environment arguments)

end Settings

end FluentGen
