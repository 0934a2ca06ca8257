import FluentGen.FileSystem
import FluentGen.Snapshot.ReadError
/-!
# Why a run fails

## Main definitions
* `ConfigurationProblem`: what is wrong with the settings of a run.
* `Failure`: what ends a run without success, with its message.
-/
namespace FluentGen

/-- What is wrong with the settings of a run. -/
inductive ConfigurationProblem where
  /-- The configuration file is malformed. -/
  | malformedFile
  /-- The value of a setting is of the wrong kind. -/
  | wrongKind (key : String)
  deriving DecidableEq, Repr

/-- The text of a problem. -/
def ConfigurationProblem.message : ConfigurationProblem → String
  | .malformedFile => "the configuration file is malformed"
  | .wrongKind key => "invalid value for key '" ++ key ++ "'"

/-- What ends a run without success. -/
inductive Failure where
  | configuration (problem : ConfigurationProblem)
  /-- The configuration file that was asked for does not exist. -/
  | configurationNotFound (path : String)
  /-- No source of settings names a snapshot. -/
  | missingInput
  /-- The text of the snapshot is refused. -/
  | snapshot (path : String) (cause : ReadError)
  | access (path : String) (cause : AccessError)
  /-- Errors were reported, and the run was told to fail then. -/
  | errorDiagnostics (count : Nat)
  deriving DecidableEq, Repr

/-- The text of a failure. -/
def Failure.message : Failure → String
  | .configuration problem => "failed to load configuration: " ++ problem.message
  | .configurationNotFound path => "configuration file " ++ path ++ " does not exist"
  | .missingInput => "no input snapshot given; pass --input or set BUILDSMITH_INPUT"
  | .snapshot path .malformed => "failed to read snapshot " ++ path ++ ": the text is not JSON"
  | .snapshot path (.mismatch cause) =>
    "failed to read snapshot " ++ path ++ ": " ++ cause.message
  | .access path cause => "I/O error at " ++ path ++ ": " ++ cause.message
  | .errorDiagnostics count =>
    "generation reported " ++ toString count ++ " error diagnostic(s)"

end FluentGen
