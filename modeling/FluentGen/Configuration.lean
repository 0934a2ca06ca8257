import FluentGen.Compilation
import FluentGen.Options.Reader
import FluentGen.Text.Alphanumeric
import FluentGen.Text.Blank
/-!
# The configuration of a builder

What the options of all scopes come to: every option has a value, lists are split, and values that
would not yield a builder are refused.

## Main definitions
* `BuilderSettings`, `MockingSettings`, `FixtureSettings`, `Configuration`: decided options.
* `Configuration.ofOptions`: fills in defaults.
* `Configuration.check`: refuses unusable values.
* `Configuration.ofLayers`, `Configuration.forUnit`: the configuration of several layers, and of
  one application to a builder class.
-/
namespace FluentGen

/-- How the builder looks. -/
structure BuilderSettings where
  methodPrefix : String
  defaultCreator : Bool
  nullableStrategy : NullableStrategy
  unreachableSetters : Bool
  implicitCast : Bool
  /-- The factory method, `none` if there is to be none. -/
  factoryMethod : Option String
  creatorProperty : Bool
  emptyCollections : Bool
  deriving DecidableEq, Repr

/-- Which members are mocked, and how. -/
structure MockingSettings where
  strategy : InterfaceStrategy
  typeFormat : String
  valueFormat : String
  objectFormat : String
  namespaces : List String
  deriving DecidableEq, Repr

/-- Which members start with made-up values, and how. -/
structure FixtureSettings where
  strategy : InterfaceStrategy
  typeName : String
  createFormat : String
  constructorArguments : Option String
  setup : Option String
  namespaces : List String
  deriving DecidableEq, Repr

/-- The decided options of one builder. -/
structure Configuration where
  builder : BuilderSettings
  mocking : MockingSettings
  fixture : FixtureSettings
  deriving DecidableEq, Repr

namespace Configuration

/-- A text that is not blank. -/
def nonBlank (text : Option String) : Option String :=
  text.filter fun text => !Text.isBlankText text

/-- The items of a list of namespaces. -/
def splitNamespaces (namespaces : Option String) : List String :=
  namespaces.elim [] Text.commaItems

/-- The strategy for a project: where annotations are on everywhere, the default turns them on. -/
def decideNullable (nullableEnabled : Bool) : NullableStrategy → NullableStrategy
  | .default => if nullableEnabled then .enabled else .default
  | strategy => strategy

/-- Fills in a default for every option that is not set. Blank texts for what is optional mean that
there is none. -/
def ofOptions (options : Options) (nullableEnabled : Bool) : Configuration where
  builder :=
    { methodPrefix := options.builder.methodPrefix.getD "With"
      defaultCreator := options.builder.defaultCreator.getD true
      nullableStrategy :=
        decideNullable nullableEnabled (options.builder.nullableStrategy.getD .default)
      unreachableSetters := options.builder.unreachableSetters.getD false
      implicitCast := options.builder.implicitCast.getD false
      factoryMethod := nonBlank options.builder.factoryMethod
      creatorProperty := options.builder.creatorProperty.getD false
      emptyCollections := options.builder.emptyCollections.getD false }
  mocking :=
    { strategy := options.mocking.strategy.getD .none
      typeFormat := options.mocking.typeFormat.getD "Mock<{0}>"
      valueFormat := options.mocking.valueFormat.getD "new Mock<{0}>()"
      objectFormat := options.mocking.objectFormat.getD "{0}.Object"
      namespaces := splitNamespaces options.mocking.namespaces }
  fixture :=
    { strategy := options.fixture.strategy.getD .none
      typeName := options.fixture.typeName.getD "Fixture"
      createFormat := options.fixture.createFormat.getD "{0}.Create<{1}>()"
      constructorArguments := nonBlank options.fixture.constructorArguments
      setup := nonBlank options.fixture.setup
      namespaces := splitNamespaces options.fixture.namespaces }

/-- The configuration when no option is set. -/
def default : Configuration :=
  ofOptions {} false

/-- Refuses a prefix that is empty or holds anything but letters, digits and underscores. -/
def checkPrefix (text : String) : Except GenerationError Unit :=
  if Text.isBlankText text then .error (.invalidOption "buildingMethodsPrefix" .emptyPrefix)
  else if text.toList.all fun c => Text.isAlphanumeric c || c == '_' then .ok ()
  else .error (.invalidOption "buildingMethodsPrefix" (.invalidPrefix text))

/-- Refuses a blank value. -/
def requireText (key value : String) : Except GenerationError Unit :=
  if Text.isBlankText value then .error (.invalidOption key .blank) else .ok ()

/-- Refuses values that no builder can be made with. Formats matter only where they are used. -/
def check (config : Configuration) : Except GenerationError Unit := do
  checkPrefix config.builder.methodPrefix
  if config.mocking.strategy ≠ .none then
    requireText "typeDeclarationFormat" config.mocking.typeFormat
    requireText "fieldDefaultValueAssignmentFormat" config.mocking.valueFormat
    requireText "returnObjectFormat" config.mocking.objectFormat
  if config.fixture.strategy ≠ .none then
    requireText "fixtureTypeName" config.fixture.typeName
    requireText "createSingleFormat" config.fixture.createFormat

/-- The configuration that layers come to, from the outermost to the innermost. -/
def ofLayers (layers : List Layer) (nullableEnabled : Bool) :
    Except GenerationError Configuration := do
  let config := ofOptions (Options.merged layers) nullableEnabled
  config.check
  return config

/-- The configuration of the builder class that `invocation` is applied to. -/
def forUnit (model : Compilation) (builder : NamedType) (invocation : Attribute) :
    Except GenerationError Configuration := do
  let assembly ← Layer.ofAttributes .assembly model.assemblyAttributes
  let type ← Layer.ofAttributes .type builder.attributes
  let application ← Layer.ofInvocation invocation
  ofLayers [assembly, type, application] model.nullableEnabled

end Configuration

end FluentGen
