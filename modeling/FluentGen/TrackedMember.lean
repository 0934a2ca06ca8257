import FluentGen.Classification
import FluentGen.Diagnostic
import FluentGen.Entity
import FluentGen.HandWritten
import FluentGen.Text.Template
/-!
# The members that a builder tracks

A builder has a field for every member of the entity. The field holds a mock, or a box that is
absent until the member is assigned, so that a member assigned `null` is told apart from one that
was never assigned. A hand-written field of the same name is used if its type fits; otherwise the
member is left out.

## Main definitions
* `TrackedMember`, `SkippedMember`: a member with a field, and one that is left out.
* `Entity.candidates`: the members in question, each name once.
* `trackMember`: what becomes of one member.
* `MemberPlan`, `planMembers`: what becomes of all.
-/
namespace FluentGen

/-- The namespace of the box type. -/
def helpersNamespace : String := "Buildsmith.Abstraction.Helpers"

/-- The box around a type. -/
def boxOf (type : TypeRef) : TypeRef :=
  .generic helpersNamespace "NullBox" .structType [type]

/-- The text of the box around a type, as generated code writes it. -/
def boxText (type : TypeRef) : String :=
  "NullBox<" ++ type.display ++ ">"

/-- A member that has a field in the builder. -/
structure TrackedMember where
  member : Member
  classification : Classification
  /-- Whether the field is generated; otherwise it is hand-written. -/
  declaresField : Bool
  /-- The hand-written field that holds the first value. -/
  defaultField : Option String
  deriving DecidableEq, Repr

/-- A member that is left out because of a hand-written field. -/
structure SkippedMember where
  member : Member
  field : Field
  /-- The type that the field would have to have. -/
  fieldType : String
  deriving DecidableEq, Repr

/-- The type of the field behind a member: a mock of its type, or a box that may be absent. -/
def fieldType (config : Configuration) (member : Member) (mockable : Bool) : String :=
  if mockable then Text.expand config.mocking.typeFormat [member.type.bare.display]
  else boxText member.type ++ "?"

namespace TrackedMember

/-- Whether a mock stands behind the member. -/
def mockable (tracked : TrackedMember) : Bool :=
  tracked.classification.mockable

/-- The type of the member. -/
def type (tracked : TrackedMember) : TypeRef :=
  tracked.member.type

/-- The field behind the member. -/
def fieldName (tracked : TrackedMember) : String :=
  tracked.member.fieldName

/-- The type of the field. -/
def fieldType (tracked : TrackedMember) (config : Configuration) : String :=
  FluentGen.fieldType config tracked.member tracked.mockable

end TrackedMember

/-- Whether a hand-written field can stand for the one behind a member. A mock has the declared
type of a mock, with or without namespaces; any other field is a box that may be absent. -/
def Field.isCompatible (field : Field) (config : Configuration) (member : Member)
    (mockable : Bool) : Bool :=
  if mockable then
    let expected (style : NameStyle) :=
      Text.expand config.mocking.typeFormat [member.type.bare.render style]
    [NameStyle.full, NameStyle.simple].any fun style =>
      field.type.display == expected style || field.type.simpleDisplay == expected style
  else field.type.nullable && field.type.sameTypeName (boxOf member.type)

/-- What becomes of a member: it is tracked, unless a hand-written field of another type has the
name of its field. -/
def trackMember (model : Compilation) (config : Configuration) (builder : NamedType)
    (member : Member) : Except SkippedMember TrackedMember :=
  let classification := classify model config member.type
  let tracked (declaresField : Bool) : TrackedMember :=
    { member, classification, declaresField
      defaultField :=
        if classification.needsExplicitDefault && declaresField then
          (builder.defaultField? member.pascalName).map (·.name)
        else none }
  match builder.field? member.fieldName with
  | none => .ok (tracked true)
  | some field =>
    if field.isCompatible config member classification.mockable then .ok (tracked false)
    else
      .error { member, field, fieldType := fieldType config member classification.mockable }

/-- The members of an entity that a builder may track: constructor parameters, settable
properties and, if asked for, read-only ones. A name that has come up before is passed over. -/
def Entity.candidates (entity : Entity) (unreachable : Bool) : List Member :=
  distinctBy Member.pascalName <|
    entity.parameters ++ entity.settableForGeneration ++
      (if unreachable then entity.readOnlyForGeneration else [])

/-- What becomes of the members of an entity. -/
structure MemberPlan where
  tracked : List TrackedMember
  skipped : List SkippedMember
  deriving DecidableEq, Repr

/-- Tracks every candidate that can be tracked. -/
def planMembers (model : Compilation) (entity : Entity) (config : Configuration)
    (builder : NamedType) : MemberPlan :=
  let outcomes :=
    (entity.candidates config.builder.unreachableSetters).map (trackMember model config builder)
  { tracked := outcomes.filterMap fun
      | .ok tracked => some tracked
      | .error _ => none
    skipped := outcomes.filterMap fun
      | .ok _ => none
      | .error skipped => some skipped }

namespace MemberPlan

/-- The tracked member of a name. -/
def find? (plan : MemberPlan) (pascalName : String) : Option TrackedMember :=
  plan.tracked.find? (·.member.pascalName == pascalName)

/-- Whether the member of a name is left out. -/
def skips (plan : MemberPlan) (pascalName : String) : Bool :=
  plan.skipped.any (·.member.pascalName == pascalName)

/-- The tracked members that only reflection can assign. -/
def unreachable (plan : MemberPlan) : List TrackedMember :=
  plan.tracked.filter (·.member.kind == .readOnlyProperty)

end MemberPlan

/-- The report of a member that is left out. -/
def SkippedMember.diagnostic (skipped : SkippedMember) (builder : NamedType) : Diagnostic where
  kind := .incompatibleField
  location := builder.location
  arguments :=
    [skipped.field.name, builder.name, skipped.field.type.display, skipped.fieldType,
      skipped.member.name]

end FluentGen
