import FluentGen.FileNames
import FluentGen.Synthesis
/-!
# Generation of all builders

Every application of the attribute that asks for a builder is a unit of work. Units do not depend
on each other: a unit that fails is reported, and the others are generated all the same. Of several
applications to one class only the first is generated, since all would declare the same members.

## Main definitions
* `Application`, `GenerationUnit`, `Compilation.units`: the work to do, in snapshot order.
* `generateBuilder`, `GenerationUnit.run`: what comes of one unit.
* `Report`, `Compilation.generate`: what comes of all.
-/
namespace FluentGen

/-- An attribute at a position among the attributes of a class. -/
structure Application where
  position : Nat
  applied : Attribute
  deriving DecidableEq, Repr

/-- A builder class with one application of the attribute that asks for a builder. -/
structure GenerationUnit where
  /-- The position of the class in the snapshot. -/
  position : Nat
  builder : NamedType
  application : Application
  /-- The first application to the class, if this is a later one. -/
  shadowedBy : Option Application
  deriving DecidableEq, Repr

/-- What comes of a unit before its file has a name. -/
structure UnitOutput where
  builder : String
  /-- The text of the file, `none` if there is to be none. -/
  source : Option String
  diagnostics : List Diagnostic
  deriving DecidableEq, Repr

/-- The applications to a class of the attribute that asks for a builder. -/
def NamedType.applications (builder : NamedType) : List Application :=
  (builder.attributes.zipIdx.filter fun (a, _) => a.isNamed makeBuilder).map
    fun (a, position) => { position, applied := a }

/-- The units of the class at a position. -/
def NamedType.units (builder : NamedType) (position : Nat) : List GenerationUnit :=
  match builder.applications with
  | [] => []
  | first :: others =>
    { position, builder, application := first, shadowedBy := none } ::
      others.map fun application => { position, builder, application, shadowedBy := some first }

/-- All units, in snapshot order. -/
def Compilation.units (model : Compilation) : List GenerationUnit :=
  model.types.zipIdx.flatMap fun (builder, position) => builder.units position

/-- Generates the builder that `a` asks for. There is no text for an abstract entity. -/
def generateBuilder (model : Compilation) (builder : NamedType) (a : Attribute) :
    Except GenerationError UnitOutput := do
  let reference ← a.entity?.elim (.error (.missingEntity builder.name)) .ok
  let config ← Configuration.forUnit model builder a
  let entity ← Entity.resolve model reference
  if entity.isAbstract then
    return { builder := builder.name, source := none, diagnostics :=
      [⟨.abstractEntity, a.location.or builder.location, [builder.name, entity.fullName]⟩] }
  else
    let synthesis := synthesize model entity config builder
    return { builder := builder.name, source := some synthesis.text,
             diagnostics := synthesis.diagnostics }

namespace GenerationUnit

/-- Generates the builder of the unit. -/
def generate (model : Compilation) (unit : GenerationUnit) : Except GenerationError UnitOutput :=
  match unit.shadowedBy with
  | some first =>
    .error (.duplicateTarget unit.builder.name (first.applied.entity?.elim "" TypeRef.display))
  | none => generateBuilder model unit.builder unit.application.applied

/-- Where the failure of the unit is reported: at the builder class, or at an attribute that comes
too late. -/
def failureLocation (unit : GenerationUnit) : Option Location :=
  match unit.shadowedBy with
  | some _ => unit.application.applied.location.or unit.builder.location
  | none => unit.builder.location

/-- What comes of the unit; a failure becomes a report. -/
def run (model : Compilation) (unit : GenerationUnit) : UnitOutput :=
  match unit.generate model with
  | .ok output => output
  | .error error =>
    { builder := unit.builder.name, source := none, diagnostics :=
      [⟨.unitFailed, unit.failureLocation, [unit.builder.name, error.message]⟩] }

end GenerationUnit

/-- A generated file. -/
structure GeneratedFile where
  name : String
  text : String
  deriving DecidableEq, Repr

/-- The files and reports of a run. -/
structure Report where
  files : List GeneratedFile
  diagnostics : List Diagnostic
  deriving DecidableEq, Repr

namespace Report

/-- Names the files of several outputs, and collects their reports. -/
def ofOutputs (names : FileNames) : List UnitOutput → Report
  | [] => { files := [], diagnostics := [] }
  | output :: outputs =>
    match output.source with
    | some text =>
      let (name, names) := names.claim output.builder
      let others := ofOutputs names outputs
      { files := { name, text } :: others.files
        diagnostics := output.diagnostics ++ others.diagnostics }
    | none =>
      let others := ofOutputs names outputs
      { others with diagnostics := output.diagnostics ++ others.diagnostics }

/-- How many reports have a severity. -/
def count (report : Report) (severity : Severity) : Nat :=
  report.diagnostics.countP (·.severity == severity)

/-- Whether any report is an error. -/
def hasErrors (report : Report) : Bool :=
  report.diagnostics.any (·.isError)

/-- The first file of a name. -/
def file? (report : Report) (name : String) : Option GeneratedFile :=
  report.files.find? (·.name == name)

end Report

/-- Generates every builder that the snapshot asks for. -/
def Compilation.generate (model : Compilation) : Report :=
  Report.ofOutputs {} (model.units.map (·.run model))

end FluentGen
