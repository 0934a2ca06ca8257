import FluentGen.Declaration
/-!
# Hand-written members

The generator completes a class that its author has begun. Whatever the author declared is not
generated again, and some hand-written members change what is generated.

## Main definitions
* `NamedType.overloads`, `NamedType.hasOverload`: the hand-written methods of a name.
* `NamedType.declares`: whether any member has a name.
* `NamedType.field?`, `NamedType.defaultField?`: hand-written fields, and those that hold the
  default of a member.
* `NamedType.hasBuild` and the like: the members with a meaning for the generator.
-/
namespace FluentGen

/-- The names of generated members. -/
structure MemberNames where
  build : String := "Build"
  buildMany : String := "BuildMany"
  buildDefault : String := "BuildDefault"
  preBuild : String := "PreBuild"
  postBuild : String := "PostBuild"
  /-- The method that assigns a property by reflection. -/
  setUnreachable : String := "SetUnreachableProperty"
  /-- The static property that makes a builder. -/
  creator : String := "Builder"
  fixtureField : String := "_fixture"
  /-- What the names of fields with defaults start with. -/
  defaultStart : String := "Default"
  /-- What the names of methods that append start with. -/
  addToStart : String := "AddTo"
  /-- The metadata name of an implicit conversion. -/
  implicitOperator : String := "op_Implicit"

/-- The names that generated code uses. -/
def names : MemberNames := {}

namespace NamedType

/-- The methods called `name`. -/
def overloads (builder : NamedType) (name : String) : List Method :=
  builder.methods.filter (·.name == name)

/-- The field called `name`, the last one of several. -/
def field? (builder : NamedType) (name : String) : Option Field :=
  builder.fields.reverse.find? (·.name == name)

/-- Whether a method, field or property is called `name`. -/
def declares (builder : NamedType) (name : String) : Bool :=
  builder.methods.any (·.name == name) || builder.fields.any (·.name == name) ||
    builder.properties.any (·.name == name)

/-- Whether the types of the parameters are spelled like the given ones. -/
def sameParameters (parameters : List Parameter) (types : List TypeRef) : Bool :=
  parameters.length == types.length &&
    (parameters.zip types).all fun (parameter, type) => parameter.type.sameTypeName type

/-- Whether a method called `name` has parameters of the given types. -/
def hasOverload (builder : NamedType) (name : String) (types : List TypeRef) : Bool :=
  (builder.overloads name).any fun method => sameParameters method.parameters types

/-- Whether a method called `name` takes a delegate and nothing else. -/
def hasDelegateOverload (builder : NamedType) (name : String) : Bool :=
  (builder.overloads name).any fun method =>
    match method.parameters with
    | [parameter] => parameter.type.kind == .delegateType || parameter.type.name == "Action"
    | _ => false

/-- The first location of a method called `name`, or else that of the class. -/
def locationOf (builder : NamedType) (name : String) : Option Location :=
  ((builder.overloads name).findSome? (·.location)).or builder.location

/-- The field that holds the default of a member. Only a constant or static field counts, since the
initializer of an instance field may not read another one. -/
def defaultField? (builder : NamedType) (pascalName : String) : Option Field :=
  (builder.field? (names.defaultStart ++ pascalName)).filter fun field =>
    field.isConst || field.isStatic

/-- The parameterless constructor. -/
def defaultConstructor? (builder : NamedType) : Option Constructor :=
  builder.constructors.find? (·.parameters.isEmpty)

/-- Whether the class has an instance method that builds without parameters. -/
def hasBuild (builder : NamedType) : Bool :=
  (builder.overloads names.build).any fun method =>
    !method.isStatic && method.parameters.isEmpty

/-- Whether the class has a method that builds many. -/
def hasBuildMany (builder : NamedType) : Bool :=
  !(builder.overloads names.buildMany).isEmpty

/-- Whether the class has a static method that builds in one step. -/
def hasBuildDefault (builder : NamedType) : Bool :=
  (builder.overloads names.buildDefault).any (·.isStatic)

/-- Whether the class has the hook that runs after construction. -/
def hasPreBuild (builder : NamedType) : Bool :=
  (builder.overloads names.preBuild).any (·.parameters.isEmpty)

/-- Whether the class has the hook that runs on a built entity. -/
def hasPostBuild (builder : NamedType) : Bool :=
  (builder.overloads names.postBuild).any (·.parameters.length == 1)

end NamedType

end FluentGen
