import FluentGen.CommandLine.LogFilter
import FluentGen.CommandLine.Run
/-!
# The command line

Runs the generator on the files of the machine, with the settings that the configuration file, the
environment and the arguments give.
-/
namespace FluentGen.CommandLine

/-- The refusal that an error of the machine stands for. -/
def refusal : IO.Error → AccessError
  | .noFileOrDirectory .. => .notFound
  | .inappropriateType .. => .notADirectory
  | .alreadyExists .. => .alreadyExists
  | .permissionDenied .. => .permissionDenied
  | _ => .invalidPath

/-- The result of an action, or the refusal of the machine. -/
def attempt {α : Type} (action : IO α) : IO (Except AccessError α) := do
  match ← action.toBaseIO with
  | .ok value => return .ok value
  | .error error => return .error (refusal error)

/-- Opens what is at a path inside a directory. -/
def probe (path : String) : IO (Except AccessError Unit) :=
  attempt do discard <| IO.FS.Handle.mk path .read

/-- The text of the file at a path, if there is one. -/
def readText? (path : String) : IO (Option String) := do
  return (← attempt (IO.FS.readFile path)).toOption

/-- The text of the file at a path in one of some directories. -/
def searchIn? (path : String) : List String → IO (Option String)
  | [] => return none
  | directory :: directories => do
    match ← readText? (Path.join directory path) with
    | some text => return some text
    | none => searchIn? path directories

instance : Machine IO where
  isFile path := do return (← readText? path).isSome
  search? path := do
    let place := Path.names (← IO.currentDir).toString
    searchIn? path ((FileSystem.surroundings place).map fun place => "/".intercalate place ++ "/")
  openDirectory path := probe (Path.join path ".")
  makeDirectory path := attempt (IO.FS.createDir path)
  read directory name := attempt (IO.FS.readFile (Path.join directory name))
  write directory name text := do
    if Path.isAbsolute name || (Path.names name).contains ".." then
      return .error .permissionDenied
    else attempt (IO.FS.writeFile (Path.join directory name) text)
  printError text := IO.eprint text

/-- The environment variables for settings that are set. -/
def environment : IO (List (String × String)) := do
  let names :=
    ["BUILDSMITH_INPUT", "BUILDSMITH_OUT_DIR", "BUILDSMITH_FAIL_ON_ERROR",
      "BUILDSMITH_JSON_DIAGNOSTICS"]
  names.filterMapM fun name => do return (← IO.getEnv name).map (name, ·)

/-- Loads the settings and runs the generator. -/
def execute (arguments : Arguments) : ExceptT Failure IO RunSummary := do
  let settings ← Settings.load (m := IO) arguments (← environment)
  run settings

end FluentGen.CommandLine

open FluentGen in
/-- Runs the generator. -/
def main (arguments : List String) : IO UInt32 := do
  match Arguments.parse arguments with
  | .error stop =>
    if stop.exitCode = 0 then IO.println stop.message else IO.eprintln ("error: " ++ stop.message)
    return stop.exitCode
  | .ok arguments =>
    match ← (CommandLine.execute arguments).run with
    | .ok _ => return 0
    | .error failure =>
      IO.eprintln ("Error: " ++ failure.message)
      return 1
