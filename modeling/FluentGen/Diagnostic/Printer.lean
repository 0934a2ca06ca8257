import FluentGen.Diagnostic
import FluentGen.Snapshot.Writer
/-!
# Printing diagnostics

Every diagnostic is printed on a line of its own, for people or for programs.

## Main definitions
* `DiagnosticFormat`: the two forms.
* `Diagnostic.toJson`: the document of a diagnostic.
* `DiagnosticFormat.line`, `DiagnosticFormat.print`: the text of one diagnostic and of several.
-/
namespace FluentGen

open Json (record option text int)

/-- The form that diagnostics are printed in. -/
inductive DiagnosticFormat where
  | text
  /-- One JSON object on each line. -/
  | jsonLines
  deriving DecidableEq, Repr

/-- The document of a diagnostic. -/
def Diagnostic.toJson (diagnostic : Diagnostic) : Json :=
  record [
    ("id", text diagnostic.kind.id),
    ("severity", text diagnostic.severity.label),
    ("title", text diagnostic.kind.title),
    ("message", text diagnostic.message),
    ("location", option Location.toJson diagnostic.location)]

namespace DiagnosticFormat

/-- The text of a diagnostic, without the line break after it. -/
def line (format : DiagnosticFormat) (diagnostic : Diagnostic) : String :=
  match format with
  | .text => diagnostic.display
  | .jsonLines => diagnostic.toJson.compact

/-- The text of several diagnostics, each with a line break after it. -/
def print (format : DiagnosticFormat) (diagnostics : List Diagnostic) : String :=
  String.join (diagnostics.map fun diagnostic => format.line diagnostic ++ "\n")

end DiagnosticFormat

end FluentGen
