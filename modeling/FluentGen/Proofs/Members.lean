import FluentGen.Proofs.Tracking
import FluentGen.Synthesis
/-!
# The members of a generated class

Which members are generated, and when. Later proofs read a generated class by cases over
`Generates` and leave the order of its declarations alone.

## Main definitions
* `GeneratedClass.of`: the generated class behind the text of a builder.
* `GeneratedClass.Generates`: the generated members, one rule for each kind.

## Main statements
* `GeneratedClass.mem_membersOf_iff`: the rules give exactly the members of the class.
-/
namespace FluentGen

/-- Items are appended to a collection that is not mocked, unless the author wrote the method. -/
theorem TrackedMember.addTo?_eq_some_iff {tracked : TrackedMember} {builder : NamedType}
    {member : GeneratedMember} :
    tracked.addTo? builder = some member ↔
      ∃ collection, tracked.mockable = false ∧
        tracked.classification.collection = some collection ∧
        builder.hasOverload tracked.addToName [.arrayOf collection.itemType] = false ∧
        member = .addTo tracked collection := by
  cases mock : tracked.mockable <;>
    simp [TrackedMember.addTo?, mock, Option.bind_eq_some_iff, @eq_comm _ member]

/-- A program that declares one class, with a public constructor of the given parameters. -/
def Compilation.ofParameters (parameters : List Parameter) : Compilation where
  types :=
    [{ name := "Order", qualifier := "Shop",
       constructors := [{ accessibility := .publicAccess, parameters := parameters }] }]

namespace GeneratedClass

/-- The generated class for an entity and a hand-written part. -/
def of (model : Compilation) (entity : Entity) (config : Configuration) (builder : NamedType) :
    GeneratedClass :=
  .ofPlan entity config builder (planMembers model entity config builder)

theorem text_synthesize (model : Compilation) (entity : Entity) (config : Configuration)
    (builder : NamedType) :
    (synthesize model entity config builder).text = (of model entity config builder).sourceText :=
  rfl

/-- The generated members and when each is generated. -/
inductive Generates (entity : Entity) (config : Configuration) (builder : NamedType)
    (plan : MemberPlan) : GeneratedMember → Prop where
  | constructor : generatesConstructor builder = true →
      Generates entity config builder plan (constructorOf config plan)
  | setter {tracked : TrackedMember} : tracked ∈ plan.tracked →
      tracked.hasSetter config builder = false →
      Generates entity config builder plan (.setter tracked)
  | addTo {tracked : TrackedMember} {collection : Collection} : tracked ∈ plan.tracked →
      tracked.addTo? builder = some (.addTo tracked collection) →
      Generates entity config builder plan (.addTo tracked collection)
  | build {parameters : List Member} : builder.hasBuild = false →
      entity.constructorParameters = some parameters →
      Generates entity config builder plan (.build (plan.buildMethod entity parameters))
  | buildMany : builder.hasBuildMany = false → canBuild entity builder = true →
      Generates entity config builder plan .buildMany
  | buildDefault {parameters : List Member} : config.builder.defaultCreator = true →
      builder.hasBuildDefault = false → entity.constructorParameters = some parameters →
      Generates entity config builder plan (.buildDefault parameters)
  | factory {name : String} : config.builder.factoryMethod = some name →
      builder.declares name = false → Generates entity config builder plan (.factory name)
  | creator : config.builder.creatorProperty = true → builder.declares names.creator = false →
      Generates entity config builder plan .creator
  | implicitCast : canBuild entity builder = true → config.builder.implicitCast = true →
      builder.declares names.implicitOperator = false →
      Generates entity config builder plan .implicitCast
  | preBuild : generatesConstructor builder = true → builder.hasPreBuild = false →
      Generates entity config builder plan .preBuild
  | postBuild : generatesBuild entity builder = true → builder.hasPostBuild = false →
      Generates entity config builder plan .postBuild
  | setUnreachable : generatesBuild entity builder = true → plan.unreachable ≠ [] →
      builder.declares names.setUnreachable = false →
      Generates entity config builder plan .setUnreachable

variable {entity : Entity} {config : Configuration} {builder : NamedType} {plan : MemberPlan}
  {member : GeneratedMember}

theorem mem_settersOf_iff {tracked : TrackedMember} :
    member ∈ settersOf config builder tracked ↔
      (tracked.hasSetter config builder = false ∧ member = .setter tracked) ∨
        tracked.addTo? builder = some member := by
  simp only [settersOf, List.mem_append, Option.mem_toList]
  refine or_congr ?_ Iff.rfl
  simp [TrackedMember.setter?, @eq_comm _ member]

theorem mem_buildersOf_iff :
    member ∈ buildersOf entity config builder plan ↔
      (∃ parameters, builder.hasBuild = false ∧ entity.constructorParameters = some parameters ∧
        member = .build (plan.buildMethod entity parameters)) ∨
      (builder.hasBuildMany = false ∧ canBuild entity builder = true ∧ member = .buildMany) ∨
      ∃ parameters, config.builder.defaultCreator = true ∧ builder.hasBuildDefault = false ∧
        entity.constructorParameters = some parameters ∧ member = .buildDefault parameters := by
  simp only [buildersOf, List.mem_append, List.mem_ite_nil_left, List.mem_ite_nil_right,
    Option.mem_toList, Option.map_eq_some_iff, List.mem_singleton, Bool.and_eq_true,
    Bool.not_eq_true', Bool.not_eq_true, @eq_comm _ _ member]
  grind

theorem mem_creatorsOf_iff :
    member ∈ creatorsOf entity config builder ↔
      (∃ name, config.builder.factoryMethod = some name ∧ builder.declares name = false ∧
        member = .factory name) ∨
      (config.builder.creatorProperty = true ∧ builder.declares names.creator = false ∧
        member = .creator) ∨
      (canBuild entity builder = true ∧ config.builder.implicitCast = true ∧
        builder.declares names.implicitOperator = false ∧ member = .implicitCast) := by
  simp only [creatorsOf, List.mem_append, List.mem_ite_nil_right, Option.mem_toList,
    Option.map_eq_some_iff, Option.filter_eq_some_iff, List.mem_singleton, Bool.and_eq_true,
    Bool.not_eq_true', @eq_comm _ _ member]
  grind

theorem mem_hooksOf_iff :
    member ∈ hooksOf entity builder plan ↔
      (generatesConstructor builder = true ∧ builder.hasPreBuild = false ∧ member = .preBuild) ∨
      (generatesBuild entity builder = true ∧ builder.hasPostBuild = false ∧
        member = .postBuild) ∨
      (generatesBuild entity builder = true ∧ plan.unreachable ≠ [] ∧
        builder.declares names.setUnreachable = false ∧ member = .setUnreachable) := by
  simp only [hooksOf, List.mem_append, List.mem_ite_nil_right, List.mem_singleton,
    Bool.and_eq_true, Bool.not_eq_true', List.isEmpty_eq_false_iff]
  grind

theorem filterMap_creatorsOf_eq_nil {α : Type} {f : GeneratedMember → Option α}
    (factory : ∀ name, f (.factory name) = none) (creator : f .creator = none)
    (implicitCast : f .implicitCast = none) : (creatorsOf entity config builder).filterMap f = [] := by
  refine List.filterMap_eq_nil_iff.mpr fun member hmember => ?_
  obtain ⟨name, -, -, rfl⟩ | ⟨-, -, rfl⟩ | ⟨-, -, -, rfl⟩ := mem_creatorsOf_iff.mp hmember
  · exact factory name
  · exact creator
  · exact implicitCast

theorem filterMap_hooksOf_eq_nil {α : Type} {f : GeneratedMember → Option α}
    (preBuild : f .preBuild = none) (postBuild : f .postBuild = none)
    (setUnreachable : f .setUnreachable = none) : (hooksOf entity builder plan).filterMap f = [] := by
  refine List.filterMap_eq_nil_iff.mpr fun member hmember => ?_
  obtain ⟨-, -, rfl⟩ | ⟨-, -, rfl⟩ | ⟨-, -, -, rfl⟩ := mem_hooksOf_iff.mp hmember
  · exact preBuild
  · exact postBuild
  · exact setUnreachable

/-- The rules give exactly the members of the class. -/
theorem mem_membersOf_iff :
    member ∈ membersOf entity config builder plan ↔
      Generates entity config builder plan member := by
  simp only [membersOf, List.mem_append, List.mem_flatMap, mem_settersOf_iff, mem_buildersOf_iff,
    mem_creatorsOf_iff, mem_hooksOf_iff, List.mem_ite_nil_right, List.mem_singleton]
  constructor
  · rintro ((((⟨h, rfl⟩ | ⟨tracked, hmem, ⟨h, rfl⟩ | h⟩) |
      (⟨parameters, h, some, rfl⟩ | ⟨h, can, rfl⟩ | ⟨parameters, asked, h, some, rfl⟩)) |
      (⟨name, asked, h, rfl⟩ | ⟨asked, h, rfl⟩ | ⟨can, asked, h, rfl⟩)) |
      (⟨constructs, h, rfl⟩ | ⟨builds, h, rfl⟩ | ⟨builds, some, h, rfl⟩))
    · exact .constructor h
    · exact .setter hmem h
    · obtain ⟨collection, -, -, -, rfl⟩ := TrackedMember.addTo?_eq_some_iff.mp h
      exact .addTo hmem h
    · exact .build h some
    · exact .buildMany h can
    · exact .buildDefault asked h some
    · exact .factory asked h
    · exact .creator asked h
    · exact .implicitCast can asked h
    · exact .preBuild constructs h
    · exact .postBuild builds h
    · exact .setUnreachable builds some h
  · intro h
    cases h <;> grind

theorem mem_members_of_iff {model : Compilation} :
    member ∈ (of model entity config builder).members ↔
      Generates entity config builder (planMembers model entity config builder) member :=
  mem_membersOf_iff

end GeneratedClass

end FluentGen
