import FluentGen.CommandLine.Settings
import FluentGen.Diagnostic.Printer
import FluentGen.Report
import FluentGen.Snapshot.Reader
/-!
# A run of the generator

A run reads a snapshot, generates every builder that it asks for, prints the diagnostics and writes
the files. Nothing is printed or written unless the snapshot can be read, and errors that are
reported do not keep the files from being written.

## Main definitions
* `RunSummary`: what a successful run tells.
* `run`: the run with some settings.
-/
namespace FluentGen

/-- What a successful run tells. -/
structure RunSummary where
  /-- The paths of the files, in the order in which they were written. -/
  written : List String
  errors : Nat
  warnings : Nat
  deriving DecidableEq, Repr

/-- The form of diagnostics that the settings ask for. -/
def Settings.format (settings : Settings) : DiagnosticFormat :=
  if settings.jsonDiagnostics then .jsonLines else .text

variable {m : Type → Type} [Monad m] [Machine m]

/-- The text of the file at a path. When its directory is missing, that is what the failure
names. -/
def readInput (path : String) : ExceptT Failure m String := do
  match Path.split? path with
  | none => throw (.access path .invalidPath)
  | some (directory, name) =>
    orFail directory (Machine.openDirectory directory : m _)
    orFail path (Machine.read directory name : m _)

/-- The compilation that the snapshot at a path describes. -/
def readSnapshot (path : String) : ExceptT Failure m Compilation := do
  match Compilation.ofText (← readInput path) with
  | .ok model => return model
  | .error cause => throw (.snapshot path cause)

/-- Makes the directories at some paths, save for those that exist. -/
def makeDirectories : List String → m (Except AccessError Unit)
  | [] => return .ok ()
  | path :: paths => do
    match ← (Machine.makeDirectory path : m (Except AccessError Unit)) with
    | .ok () => makeDirectories paths
    | .error .alreadyExists =>
      match ← (Machine.openDirectory path : m (Except AccessError Unit)) with
      | .ok () => makeDirectories paths
      | .error _ => return .error .alreadyExists
    | .error refusal => return .error refusal

/-- Makes a directory with those that it is in, unless it exists. -/
def ensureDirectory (path : String) : m (Except AccessError Unit) := do
  match ← (Machine.openDirectory path : m (Except AccessError Unit)) with
  | .error .notFound => makeDirectories (Path.steps path)
  | result => return result

/-- Writes files below a directory, and returns their paths. -/
def writeFiles (directory : String) : List GeneratedFile → ExceptT Failure m (List String)
  | [] => return []
  | file :: files => do
    let path := Path.join directory file.name
    orFail path (Machine.write directory file.name file.text : m _)
    return path :: (← writeFiles directory files)

/-- Generates the builders of the snapshot that the settings name. -/
def run (settings : Settings) : ExceptT Failure m RunSummary := do
  let report := (← readSnapshot settings.input).generate
  (Machine.printError (settings.format.print report.diagnostics) : m Unit)
  orFail settings.outDirectory (ensureDirectory settings.outDirectory)
  let written ← writeFiles settings.outDirectory report.files
  let errors := report.count .error
  if settings.failOnError && errors != 0 then throw (.errorDiagnostics errors)
  return { written, errors, warnings := report.count .warning }

end FluentGen
