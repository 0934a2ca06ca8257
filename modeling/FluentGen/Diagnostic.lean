import FluentGen.Declaration
import FluentGen.Text.Template
/-!
# Diagnostics

What the generator reports next to the files it makes.

## Main definitions
* `Severity`, `DiagnosticKind`: the kinds of diagnostics with their fixed texts.
* `Diagnostic`: a kind with its arguments and a location.
* `Diagnostic.message`, `Diagnostic.display`: the texts of a diagnostic.
-/
namespace FluentGen

/-- How serious a diagnostic is. -/
inductive Severity where
  | info
  | warning
  | error
  deriving DecidableEq, Repr

/-- The name of a severity. -/
def Severity.label : Severity → String
  | .info => "info"
  | .warning => "warning"
  | .error => "error"

/-- What is reported. -/
inductive DiagnosticKind where
  /-- The builder declares the method that builds. -/
  | buildOverride
  /-- The builder declares the parameterless constructor. -/
  | constructorOverride
  /-- The builder declares the method that builds many. -/
  | buildManyOverride
  /-- The entity has no visible constructor. -/
  | noConstructor
  /-- The entity is abstract. -/
  | abstractEntity
  /-- The builder could not be generated. -/
  | unitFailed
  /-- A field of the builder has the name of a generated one and another type. -/
  | incompatibleField
  deriving DecidableEq, Repr

namespace DiagnosticKind

/-- All kinds, in the order of their identifiers. -/
def all : List DiagnosticKind :=
  [.buildOverride, .constructorOverride, .buildManyOverride, .noConstructor, .abstractEntity,
    .unitFailed, .incompatibleField]

/-- The identifier of a kind. -/
def id : DiagnosticKind → String
  | .buildOverride => "BSG001"
  | .constructorOverride => "BSG002"
  | .buildManyOverride => "BSG003"
  | .noConstructor => "BSG004"
  | .abstractEntity => "BSG005"
  | .unitFailed => "BSG006"
  | .incompatibleField => "BSG007"

/-- The title of a kind. -/
def title : DiagnosticKind → String
  | .buildOverride => "Build method override"
  | .constructorOverride => "Default constructor override"
  | .buildManyOverride => "BuildMany method override"
  | .noConstructor => "No accessible constructor"
  | .abstractEntity => "Abstract entity"
  | .unitFailed => "Builder generation failed"
  | .incompatibleField => "Incompatible builder field"

/-- The message of a kind, over its arguments. -/
def template : DiagnosticKind → String
  | .buildOverride =>
    "Builder {0} declares Build(); the generated Build method is skipped and may be shadowed"
  | .constructorOverride =>
    "Builder {0} declares a parameterless constructor; the generated constructor with its " ++
      "default values is skipped"
  | .buildManyOverride =>
    "Builder {0} declares BuildMany; the generated BuildMany method is skipped"
  | .noConstructor =>
    "Cannot generate a Build method for {0} because it has no accessible constructor; define " ++
      "Build() on {1} yourself"
  | .abstractEntity => "Builder {0} cannot build {1} because it is abstract"
  | .unitFailed => "Generation of builder {0} failed: {1}"
  | .incompatibleField =>
    "Field {0} on builder {1} has type {2} but {3} is required; member {4} is not generated"

/-- The severity of a kind. -/
def severity : DiagnosticKind → Severity
  | .buildOverride | .constructorOverride | .buildManyOverride => .info
  | .noConstructor | .abstractEntity | .unitFailed => .error
  | .incompatibleField => .warning

end DiagnosticKind

/-- A report of one kind. -/
structure Diagnostic where
  kind : DiagnosticKind
  location : Option Location
  arguments : List String
  deriving DecidableEq, Repr

namespace Diagnostic

/-- How serious the diagnostic is. -/
def severity (diagnostic : Diagnostic) : Severity :=
  diagnostic.kind.severity

/-- Whether the diagnostic is an error. -/
def isError (diagnostic : Diagnostic) : Bool :=
  diagnostic.severity == .error

/-- The message with its arguments. -/
def message (diagnostic : Diagnostic) : String :=
  Text.expand diagnostic.kind.template diagnostic.arguments

/-- The diagnostic as one line: severity, identifier, message, and the location if there is one. -/
def display (diagnostic : Diagnostic) : String :=
  diagnostic.severity.label ++ " " ++ diagnostic.kind.id ++ ": " ++ diagnostic.message ++
    diagnostic.location.elim "" fun location => " [at " ++ location.display ++ "]"

end Diagnostic

end FluentGen
