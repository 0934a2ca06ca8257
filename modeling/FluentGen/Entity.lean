import FluentGen.Error
import FluentGen.Inheritance
import FluentGen.Naming
/-!
# Entities

The type that a builder builds, as the builder sees it: the parameters of its widest visible
constructor and the properties that it declares or inherits, each under its most derived
declaration.

## Main definitions
* `Member`: a constructor parameter or property of an entity.
* `Entity`: the shape of an entity.
* `Entity.resolve`: the shape behind a reference.
* `Entity.settableForGeneration`, `Entity.readOnlyForGeneration`: the properties that no
  constructor parameter stands for.
-/
namespace FluentGen

/-- How a member reaches the entity. -/
inductive MemberKind where
  | constructorParameter
  | settableProperty
  | readOnlyProperty
  deriving DecidableEq, Repr

/-- A constructor parameter or a property, with the type arguments of the entity applied. -/
structure Member where
  name : String
  type : TypeRef
  kind : MemberKind
  deriving DecidableEq, Repr

/-- The name of the member as the name of a property. -/
def Member.pascalName (member : Member) : String :=
  pascalCase member.name

/-- The field of the builder behind the member. -/
def Member.fieldName (member : Member) : String :=
  backingFieldName member.name

/-- The first item of each key. -/
def distinctBy {α : Type} (key : α → String) : List α → List α
  | [] => []
  | item :: items => item :: (distinctBy key items).filter fun other => key other != key item

/-- A type to build. -/
structure Entity where
  name : String
  /-- The namespace, empty for the global one. -/
  qualifier : String
  /-- The reference that generated code uses. -/
  type : TypeRef
  /-- The type parameters that no argument is given for. -/
  openParameters : List TypeParameter
  isAbstract : Bool
  /-- The parameters of the constructor to call, `none` if no constructor is visible. -/
  constructorParameters : Option (List Member)
  settableProperties : List Member
  readOnlyProperties : List Member
  deriving DecidableEq, Repr

namespace TypeParameter

/-- The constraint clause of a type parameter, if it has constraints. The constraint to value types
implies that of a parameterless constructor. -/
def constraintClause? (parameter : TypeParameter) : Option String :=
  let parts :=
    (if parameter.referenceType then ["class"] else []) ++
      (if parameter.valueType then ["struct"] else []) ++
      parameter.constraintTypes.map TypeRef.display ++
      (if parameter.defaultConstructor && !parameter.valueType then ["new()"] else [])
  if parts.isEmpty then none
  else some ("where " ++ parameter.name ++ " : " ++ ", ".intercalate parts)

end TypeParameter

namespace Entity

/-- The name with namespace and type arguments. -/
def fullName (entity : Entity) : String :=
  entity.type.display

/-- The name with type arguments. -/
def displayName (entity : Entity) : String :=
  entity.type.simpleDisplay

/-- The constraint clauses of the open type parameters. -/
def constraintClauses (entity : Entity) : List String :=
  entity.openParameters.filterMap TypeParameter.constraintClause?

/-- The full name, followed by the constraint clauses. -/
def fullNameWithConstraints (entity : Entity) : String :=
  " ".intercalate (entity.fullName :: entity.constraintClauses)

/-- The namespaces of the constraints of the open type parameters. -/
def constraintNamespaces (entity : Entity) : List String :=
  TypeRef.addAllNamespaces [] (entity.openParameters.flatMap (·.constraintTypes))

/-- The constructor parameters, none if there is no constructor. -/
def parameters (entity : Entity) : List Member :=
  entity.constructorParameters.getD []

/-- Whether a constructor parameter stands for the property `pascalName`. -/
def isConstructorParameter (entity : Entity) (pascalName : String) : Bool :=
  entity.parameters.any (·.pascalName == pascalName)

/-- The settable properties that no constructor parameter stands for. -/
def settableForGeneration (entity : Entity) : List Member :=
  entity.settableProperties.filter fun property =>
    !entity.isConstructorParameter property.pascalName

/-- The read-only properties that no constructor parameter stands for. -/
def readOnlyForGeneration (entity : Entity) : List Member :=
  entity.readOnlyProperties.filter fun property =>
    !entity.isConstructorParameter property.pascalName

/-- The declaration that a reference to an entity means. A reference without type arguments may
leave them open, so any number of type parameters will do when the exact one is not declared. -/
def findDeclaration? (model : Compilation) (reference : TypeRef) : Option NamedType :=
  (model.resolve? reference).or <|
    model.types.find? fun type =>
      type.name == reference.name && type.qualifier == reference.qualifier.getD ""

/-- The visible constructor with the most parameters, the first one of several. -/
def selectConstructor? (constructors : List Constructor) : Option Constructor :=
  (constructors.filter (·.accessibility.isAssemblyVisible)).foldl
    (fun best constructor =>
      match best with
      | some current =>
        if constructor.parameters.length ≤ current.parameters.length then some current
        else some constructor
      | none => some constructor)
    none

/-- The properties of all levels that `keep` accepts, each name once. Static properties and
indexers are never among them. -/
def collectProperties (levels : List Level) (kind : MemberKind) (keep : Property → Bool) :
    List Member :=
  distinctBy Member.name <| levels.flatMap fun level =>
    (level.declaration.properties.filter fun property =>
      !property.isStatic && !property.isIndexer && keep property).map fun property =>
        { name := property.name, type := property.type.substitute level.bindings, kind }

/-- The reference that generated code uses: the given one if it has an argument for each type
parameter, and the definition over its own parameters otherwise. -/
def referenceFor (declaration : NamedType) (reference : TypeRef) : TypeRef :=
  if reference.arguments.length = declaration.typeParameters.length then
    { reference with kind := declaration.kind, nullable := false }
  else declaration.selfRef

/-- The shape of an entity over its declaration. A computed property counts as read-only only if a
constructor parameter has its name. -/
def ofDeclaration (model : Compilation) (declaration : NamedType) (type : TypeRef) : Entity :=
  let bindings := declaration.bindingsFor type
  let constructorParameters :=
    (selectConstructor? declaration.constructors).map fun constructor =>
      constructor.parameters.map fun parameter =>
        { name := parameter.name, type := parameter.type.substitute bindings,
          kind := .constructorParameter : Member }
  let parameterNames := (constructorParameters.getD []).map (·.pascalName)
  let levels := model.levels declaration bindings
  { name := declaration.name
    qualifier := declaration.qualifier
    type := type
    openParameters :=
      declaration.typeParameters.filter fun parameter => (bindings.lookup parameter.name).isNone
    isAbstract := declaration.isAbstract || declaration.kind == .interfaceType
    constructorParameters := constructorParameters
    settableProperties := collectProperties levels .settableProperty (·.isPubliclySettable)
    readOnlyProperties := collectProperties levels .readOnlyProperty fun property =>
      property.isPubliclyReadOnly &&
        (!property.isComputed || parameterNames.contains property.name) }

/-- The shape of the entity behind a reference. -/
def resolve (model : Compilation) (reference : TypeRef) : Except GenerationError Entity :=
  match findDeclaration? model reference with
  | none => .error (.unresolvedType reference.display)
  | some declaration => .ok (ofDeclaration model declaration (referenceFor declaration reference))

end Entity

end FluentGen
