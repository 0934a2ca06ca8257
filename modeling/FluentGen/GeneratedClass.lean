import FluentGen.TrackedMember
/-!
# Generated classes

The generated part of a builder class, as a list of declarations that says what each of them sets,
reads and calls, before any text is made of it.

## Main definitions
* `InitialValue`, `BuildValue`: the values that the constructor sets and that building passes on.
* `BuildMethod`: the method that builds.
* `GeneratedField`, `GeneratedMember`: the declarations.
* `GeneratedClass`: the class.
* `GeneratedClass.ofPlan`: the class for an entity, a configuration and a hand-written part.
-/
namespace FluentGen

/-- The first value of a member. -/
inductive InitialValue where
  | mock
  /-- A value that the fixture makes up. -/
  | fixture
  | emptyCollection (collection : Collection)
  deriving DecidableEq, Repr

/-- The value of a member that is passed on when building. -/
inductive BuildValue where
  /-- The object of the mock in a field. -/
  | mocked (field : String)
  /-- The value in the box of a field, or the default of the type if there is no box. -/
  | boxed (field : String) (type : TypeRef)
  /-- The default of the type. -/
  | untracked (type : TypeRef)
  deriving DecidableEq, Repr

/-- The assignment of a settable property. -/
structure Initializer where
  property : String
  value : BuildValue
  deriving DecidableEq, Repr

/-- The method that builds: it calls the constructor, assigns the settable properties, and assigns
the unreachable ones by reflection. -/
structure BuildMethod where
  arguments : List BuildValue
  initializers : List Initializer
  unreachable : List TrackedMember
  deriving DecidableEq, Repr

/-- A generated field. -/
inductive GeneratedField where
  | fixture
  | backing (tracked : TrackedMember)
  deriving DecidableEq, Repr

/-- A generated member other than a field. -/
inductive GeneratedMember where
  | constructor (initial : List (TrackedMember × InitialValue)) (setup : Option String)
  | setter (tracked : TrackedMember)
  /-- Appends items to a collection. -/
  | addTo (tracked : TrackedMember) (collection : Collection)
  | build (method : BuildMethod)
  | buildMany
  | buildDefault (parameters : List Member)
  | factory (name : String)
  | creator
  | implicitCast
  | preBuild
  | postBuild
  | setUnreachable
  deriving DecidableEq, Repr

/-- The generated part of a builder class. -/
structure GeneratedClass where
  /-- The imported namespaces. -/
  imports : List String
  /-- The namespace of the class, empty for the global one. -/
  qualifier : String
  name : String
  /-- The class with its type parameters. -/
  builderType : String
  /-- The entity with its type arguments. -/
  entityType : String
  constraints : List String
  config : Configuration
  fields : List GeneratedField
  members : List GeneratedMember
  deriving DecidableEq, Repr

/-- The namespaces that every builder imports. -/
def baseNamespaces : List String :=
  ["System", "System.Linq", helpersNamespace]

/-- The namespaces to import, each once. -/
def importedNamespaces (entity : Entity) (config : Configuration) : List String :=
  distinctBy id <|
    baseNamespaces ++ (if entity.qualifier.isEmpty then [] else [entity.qualifier]) ++
      entity.constraintNamespaces ++ config.mocking.namespaces ++ config.fixture.namespaces

/-- The builder class with the open type parameters of its entity. -/
def builderTypeText (entity : Entity) (builder : NamedType) : String :=
  if entity.openParameters.isEmpty then builder.name
  else builder.name ++ "<" ++ ", ".intercalate (entity.openParameters.map (·.name)) ++ ">"

/-- The entity without its own namespace; its type arguments keep theirs. -/
def entityTypeText (entity : Entity) : String :=
  { entity.type with qualifier := none }.display

namespace TrackedMember

/-- The value that the constructor gives a member: a mock, else a made-up value, else an empty
collection if these are asked for and the member has no default. -/
def initialValue? (tracked : TrackedMember) (config : Configuration) : Option InitialValue :=
  if tracked.mockable then some .mock
  else if tracked.classification.fakeable then some .fixture
  else if config.builder.emptyCollections && tracked.defaultField.isNone then
    tracked.classification.collection.map .emptyCollection
  else none

/-- The name of the setter. -/
def setterName (tracked : TrackedMember) (config : Configuration) : String :=
  config.builder.methodPrefix ++ tracked.member.pascalName

/-- The name of the method that appends items. -/
def addToName (tracked : TrackedMember) : String :=
  names.addToStart ++ tracked.member.pascalName

/-- Whether the author wrote the setter. -/
def hasSetter (tracked : TrackedMember) (config : Configuration) (builder : NamedType) : Bool :=
  if tracked.mockable then builder.hasDelegateOverload (tracked.setterName config)
  else builder.hasOverload (tracked.setterName config) [tracked.type]

/-- The setter, unless the author wrote it. -/
def setter? (tracked : TrackedMember) (config : Configuration) (builder : NamedType) :
    Option GeneratedMember :=
  if tracked.hasSetter config builder then none else some (.setter tracked)

/-- The method that appends items to a collection that is not mocked, unless the author wrote it. -/
def addTo? (tracked : TrackedMember) (builder : NamedType) : Option GeneratedMember :=
  if tracked.mockable then none
  else
    tracked.classification.collection.bind fun collection =>
      if builder.hasOverload tracked.addToName [.arrayOf collection.itemType] then none
      else some (.addTo tracked collection)

end TrackedMember

namespace MemberPlan

/-- The value of a member that building passes on. -/
def buildValue (plan : MemberPlan) (member : Member) : BuildValue :=
  match plan.find? member.pascalName with
  | some tracked =>
    if tracked.mockable then .mocked tracked.fieldName else .boxed tracked.fieldName member.type
  | none => .untracked member.type

/-- The method that builds, given the constructor parameters. -/
def buildMethod (plan : MemberPlan) (entity : Entity) (parameters : List Member) : BuildMethod where
  arguments := parameters.map plan.buildValue
  initializers :=
    (entity.settableForGeneration.filter fun property => !plan.skips property.pascalName).map
      fun property => { property := property.name, value := plan.buildValue property }
  unreachable := plan.unreachable

end MemberPlan

/-- The statement that sets the fixture up, ended by a semicolon if it needs one. -/
def fixtureSetup? (config : Configuration) : Option String :=
  if config.fixture.strategy = .none then none
  else
    (config.fixture.setup.map Text.trim).bind fun snippet =>
      if snippet.isEmpty then none
      else
        let statement := Text.expand snippet [names.fixtureField]
        match statement.toList.getLast? with
        | some ';' | some '}' => some statement
        | _ => some (statement ++ ";")

namespace GeneratedClass

/-- Whether the constructor is generated: unless the author wrote one. -/
def generatesConstructor (builder : NamedType) : Bool :=
  builder.defaultConstructor?.isNone

/-- Whether the method that builds is generated: unless the author wrote it or there is no
constructor to call. -/
def generatesBuild (entity : Entity) (builder : NamedType) : Bool :=
  !builder.hasBuild && entity.constructorParameters.isSome

/-- Whether the class can build at all. -/
def canBuild (entity : Entity) (builder : NamedType) : Bool :=
  generatesBuild entity builder || builder.hasBuild

/-- The generated fields: that of the fixture if one is used, and those of tracked members, except
for those that the author wrote. -/
def fieldsOf (config : Configuration) (builder : NamedType) (plan : MemberPlan) :
    List GeneratedField :=
  (if config.fixture.strategy ≠ .none ∧ (builder.field? names.fixtureField).isNone then
      [.fixture]
    else []) ++
    (plan.tracked.filter (·.declaresField)).map .backing

/-- The constructor, which sets first values and then calls the hook. -/
def constructorOf (config : Configuration) (plan : MemberPlan) : GeneratedMember :=
  .constructor
    (plan.tracked.filterMap fun tracked =>
      (tracked.initialValue? config).map fun value => (tracked, value))
    (fixtureSetup? config)

/-- The setter of a tracked member and the method that appends to it. -/
def settersOf (config : Configuration) (builder : NamedType) (tracked : TrackedMember) :
    List GeneratedMember :=
  (tracked.setter? config builder).toList ++ (tracked.addTo? builder).toList

/-- The methods that build. -/
def buildersOf (entity : Entity) (config : Configuration) (builder : NamedType)
    (plan : MemberPlan) : List GeneratedMember :=
  (if builder.hasBuild then []
    else (entity.constructorParameters.map fun parameters =>
      .build (plan.buildMethod entity parameters)).toList) ++
    (if !builder.hasBuildMany && canBuild entity builder then [.buildMany] else []) ++
    (if config.builder.defaultCreator && !builder.hasBuildDefault then
        (entity.constructorParameters.map .buildDefault).toList
      else [])

/-- The ways to make a builder, and the conversion to the entity. -/
def creatorsOf (entity : Entity) (config : Configuration) (builder : NamedType) :
    List GeneratedMember :=
  ((config.builder.factoryMethod.filter fun name => !builder.declares name).map .factory).toList ++
    (if config.builder.creatorProperty && !builder.declares names.creator then [.creator] else []) ++
    (if canBuild entity builder && config.builder.implicitCast &&
        !builder.declares names.implicitOperator then [.implicitCast]
      else [])

/-- The hooks that generated code calls, and the method behind assignments by reflection. -/
def hooksOf (entity : Entity) (builder : NamedType) (plan : MemberPlan) : List GeneratedMember :=
  (if generatesConstructor builder && !builder.hasPreBuild then [.preBuild] else []) ++
    (if generatesBuild entity builder && !builder.hasPostBuild then [.postBuild] else []) ++
    (if generatesBuild entity builder && !plan.unreachable.isEmpty &&
        !builder.declares names.setUnreachable then [.setUnreachable]
      else [])

/-- All generated members but the fields, in the order in which they are written. -/
def membersOf (entity : Entity) (config : Configuration) (builder : NamedType)
    (plan : MemberPlan) : List GeneratedMember :=
  (if generatesConstructor builder then [constructorOf config plan] else []) ++
    plan.tracked.flatMap (settersOf config builder) ++
    buildersOf entity config builder plan ++
    creatorsOf entity config builder ++
    hooksOf entity builder plan

/-- The generated part of a builder class. -/
def ofPlan (entity : Entity) (config : Configuration) (builder : NamedType) (plan : MemberPlan) :
    GeneratedClass where
  imports := importedNamespaces entity config
  qualifier := builder.qualifier
  name := builder.name
  builderType := builderTypeText entity builder
  entityType := entityTypeText entity
  constraints := entity.constraintClauses
  config := config
  fields := fieldsOf config builder plan
  members := membersOf entity config builder plan

end GeneratedClass

end FluentGen
