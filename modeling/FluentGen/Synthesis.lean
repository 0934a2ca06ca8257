import FluentGen.GeneratedClass.SourceText
/-!
# Synthesis of a builder

The text of the generated class, with the reports of what was left out of it.

## Main definitions
* `Synthesis`: text and reports.
* `synthesisDiagnostics`: the reports, in order.
* `synthesize`: both.
-/
namespace FluentGen

/-- The text of a generated class and what is reported with it. -/
structure Synthesis where
  text : String
  diagnostics : List Diagnostic
  deriving DecidableEq, Repr

/-- The report that the author wrote the constructor. -/
def constructorDiagnostics (builder : NamedType) : List Diagnostic :=
  match builder.defaultConstructor? with
  | some constructor =>
    [⟨.constructorOverride, constructor.location.or builder.location, [builder.name]⟩]
  | none => []

/-- The report that the author wrote the method that builds, or that it cannot be generated. -/
def buildDiagnostics (entity : Entity) (builder : NamedType) : List Diagnostic :=
  if builder.hasBuild then
    [⟨.buildOverride, builder.locationOf names.build, [builder.name]⟩]
  else if entity.constructorParameters.isNone then
    [⟨.noConstructor, builder.location, [entity.fullName, builder.name]⟩]
  else []

/-- The report that the author wrote the method that builds many. -/
def buildManyDiagnostics (builder : NamedType) : List Diagnostic :=
  if builder.hasBuildMany then
    [⟨.buildManyOverride, builder.locationOf names.buildMany, [builder.name]⟩]
  else []

/-- All reports: members left out, then the constructor, then the methods that build. -/
def synthesisDiagnostics (entity : Entity) (builder : NamedType) (plan : MemberPlan) :
    List Diagnostic :=
  plan.skipped.map (·.diagnostic builder) ++ constructorDiagnostics builder ++
    buildDiagnostics entity builder ++ buildManyDiagnostics builder

/-- The builder for an entity. -/
def synthesize (model : Compilation) (entity : Entity) (config : Configuration)
    (builder : NamedType) : Synthesis :=
  let plan := planMembers model entity config builder
  { text := (GeneratedClass.ofPlan entity config builder plan).sourceText
    diagnostics := synthesisDiagnostics entity builder plan }

end FluentGen
