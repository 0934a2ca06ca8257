import FluentGen.CommandLine.SettingValue
/-!
# Arguments of the command line

Options take a value, either behind an equals sign or as the next argument; switches take none.
Each may be given once, and nothing else may be given. A value in an argument of its own is settled
only when the next option or switch is met or the arguments end, so an argument that has no place
is reported before a problem of the option in front of it.

## Main definitions
* `Arguments`: what the arguments say.
* `Stop`: why there is nothing to run.
* `Argument.ofText`: the form of one argument.
* `Arguments.parse`: reads all arguments.
-/
namespace FluentGen

/-- An option that takes a path. -/
inductive PathOption where
  | configuration
  | input
  | outDirectory
  deriving DecidableEq, Repr

/-- The name of an option. -/
def PathOption.name : PathOption → String
  | .configuration => "config"
  | .input => "input"
  | .outDirectory => "out-dir"

/-- An option that takes no value. -/
inductive Switch where
  | failOnError
  | jsonDiagnostics
  | help
  | version
  deriving DecidableEq, Repr

/-- The name of a switch. -/
def Switch.name : Switch → String
  | .failOnError => "fail-on-error"
  | .jsonDiagnostics => "json-diagnostics"
  | .help => "help"
  | .version => "version"

/-- Why the arguments leave nothing to run. -/
inductive Stop where
  | unknownArgument (argument : String)
  | missingValue (option : String)
  | repeated (option : String)
  | unexpectedValue (option : String)
  | help
  | version
  deriving DecidableEq, Repr

namespace Stop

/-- The exit code of the program. Only misuse is a failure. -/
def exitCode : Stop → UInt32
  | .help | .version => 0
  | _ => 2

/-- The text to print. -/
def message : Stop → String
  | .unknownArgument argument => "unexpected argument '" ++ argument ++ "'"
  | .missingValue option => "a value is required for '--" ++ option ++ "'"
  | .repeated option => "the argument '--" ++ option ++ "' cannot be used multiple times"
  | .unexpectedValue option => "'--" ++ option ++ "' takes no value"
  | .help =>
    "Generate builder classes from a compiler semantic snapshot\n\n" ++
      "Usage: buildsmith [--config <path>] [--input <path>] [--out-dir <path>] " ++
      "[--fail-on-error] [--json-diagnostics]"
  | .version => "buildsmith 0.3.0"

end Stop

/-- What the arguments say. -/
structure Arguments where
  configuration : Option String := none
  input : Option String := none
  outDirectory : Option String := none
  failOnError : Bool := false
  jsonDiagnostics : Bool := false
  deriving DecidableEq, Repr

/-- The form of one argument. -/
inductive Argument where
  /-- Two dashes: no options after it. -/
  | separator
  | option (option : PathOption) (value : Option String)
  | switch (switch : Switch) (value : Option String)
  /-- An option that does not exist. -/
  | unknown
  /-- A text that is no option. -/
  | plain
  deriving DecidableEq, Repr

/-- The form of a long option, given by its name and the value behind its equals sign. -/
def Argument.ofName (name : String) (value : Option String) : Argument :=
  match [PathOption.configuration, .input, .outDirectory].find? (·.name == name) with
  | some named => .option named value
  | none =>
    match [Switch.failOnError, .jsonDiagnostics, .help, .version].find? (·.name == name) with
    | some named => .switch named value
    | none => .unknown

/-- The form of an argument. Behind a single dash stand one-letter switches, the first of which
ends the run. -/
def Argument.ofText (text : String) : Argument :=
  match text.toList with
  | ['-', '-'] => .separator
  | '-' :: '-' :: rest =>
    let name := String.ofList (rest.takeWhile (· != '='))
    match rest.dropWhile (· != '=') with
    | [] => .ofName name none
    | _ :: value => .ofName name (some (String.ofList value))
  | '-' :: 'h' :: _ => .switch .help none
  | '-' :: 'V' :: _ => .switch .version none
  | '-' :: _ :: _ => .unknown
  | _ => .plain

namespace Arguments

/-- The value of an option. -/
def get? (arguments : Arguments) : PathOption → Option String
  | .configuration => arguments.configuration
  | .input => arguments.input
  | .outDirectory => arguments.outDirectory

/-- Gives a value to an option that has none. -/
def set (arguments : Arguments) (option : PathOption) (value : String) : Except Stop Arguments :=
  if (arguments.get? option).isSome then .error (.repeated option.name)
  else match option with
    | .configuration => .ok { arguments with configuration := value }
    | .input => .ok { arguments with input := value }
    | .outDirectory => .ok { arguments with outDirectory := value }

/-- Turns a switch on that is off. -/
def turnOn (arguments : Arguments) : Switch → Except Stop Arguments
  | .failOnError =>
    if arguments.failOnError then .error (.repeated "fail-on-error")
    else .ok { arguments with failOnError := true }
  | .jsonDiagnostics =>
    if arguments.jsonDiagnostics then .error (.repeated "json-diagnostics")
    else .ok { arguments with jsonDiagnostics := true }
  | .help => .error .help
  | .version => .error .version

/-- Settles an option that was named without a value behind it, with the value found since. -/
def settle (arguments : Arguments) :
    Option (PathOption × Option String) → Except Stop Arguments
  | none => .ok arguments
  | some (option, none) => .error (.missingValue option.name)
  | some (option, some value) => arguments.set option value

/-- Reads arguments after others that gave `arguments` and left an option to settle. -/
def parseFrom (arguments : Arguments) (pending : Option (PathOption × Option String)) :
    List String → Except Stop Arguments
  | [] => arguments.settle pending
  | text :: rest =>
    match Argument.ofText text with
    | .separator =>
      match rest with
      | [] => arguments.settle pending
      | extra :: _ => .error (.unknownArgument extra)
    | .option option none => do
      (← arguments.settle pending).parseFrom (some (option, none)) rest
    | .option option (some value) => do
      (← (← arguments.settle pending).set option value).parseFrom none rest
    | .switch switch none => do
      (← (← arguments.settle pending).turnOn switch).parseFrom none rest
    | .switch switch (some _) => .error (.unexpectedValue switch.name)
    | .unknown => .error (.unknownArgument text)
    | .plain =>
      match pending with
      | some (option, none) => arguments.parseFrom (some (option, some text)) rest
      | _ => .error (.unknownArgument text)

/-- Reads the arguments of the program, without its name. -/
def parse (arguments : List String) : Except Stop Arguments :=
  parseFrom {} none arguments

/-- The settings that the arguments give values to. A switch that is off gives none. -/
def assignments (arguments : Arguments) : Assignments :=
  (arguments.input.toList.map fun path => ("input", .text path)) ++
    (arguments.outDirectory.toList.map fun path => ("out_dir", .text path)) ++
    (if arguments.failOnError then [("fail_on_error", .flag true)] else []) ++
    (if arguments.jsonDiagnostics then [("json_diagnostics", .flag true)] else [])

example : parse ["--input", "a", "--out-dir=b", "--fail-on-error"] =
    .ok { input := some "a", outDirectory := some "b", failOnError := true } := rfl
example : parse ["--input", "a", "--input", "b"] = .error (.repeated "input") := rfl
example : parse ["--input", "a", "--input", "b", "c"] = .error (.unknownArgument "c") := rfl
example : parse ["--input", "--help"] = .error (.missingValue "input") := rfl

end Arguments

end FluentGen
