/-!
# Options

Options of a builder may be set at several scopes: for the assembly, on the builder class, and on
the application that asks for the builder. A layer holds what one scope sets; the innermost scope
that sets an option decides it.

## Main definitions
* `NullableStrategy`, `InterfaceStrategy`: the choices of two options.
* `BuilderOptions`, `MockingOptions`, `FixtureOptions`: the options of each domain, `none` where
  unset.
* `Options`, `Options.overlay`: all domains, and what an inner scope makes of an outer one.
* `Layer`, `Options.merged`: the options of a scope, and those of several scopes together.
-/
namespace FluentGen

/-- The nullable context of a generated file. -/
inductive NullableStrategy where
  /-- The context of the project, without a directive. -/
  | default
  | disabled
  | enabled
  deriving DecidableEq, Repr

/-- The members that a mocking or a fixture library takes care of. -/
inductive InterfaceStrategy where
  | none
  | all
  /-- All but interfaces of generic sequences. -/
  | withoutGenericCollection
  deriving DecidableEq, Repr

/-- How the builder looks. -/
structure BuilderOptions where
  /-- What the names of setters start with. -/
  methodPrefix : Option String := none
  /-- A static method that makes the entity in one step. -/
  defaultCreator : Option Bool := none
  nullableStrategy : Option NullableStrategy := none
  /-- Setters for properties that only reflection can assign. -/
  unreachableSetters : Option Bool := none
  /-- A conversion from the builder to the entity. -/
  implicitCast : Option Bool := none
  /-- The name of a static method that makes a builder. -/
  factoryMethod : Option String := none
  /-- A static property that makes a builder. -/
  creatorProperty : Option Bool := none
  /-- Collections start out empty instead of unassigned. -/
  emptyCollections : Option Bool := none
  deriving DecidableEq, Repr

/-- Which members are mocked, and how. -/
structure MockingOptions where
  strategy : Option InterfaceStrategy := none
  /-- The type of a mock, over the mocked type. -/
  typeFormat : Option String := none
  /-- The value of a new mock, over the mocked type. -/
  valueFormat : Option String := none
  /-- The mocked object, over the field that holds the mock. -/
  objectFormat : Option String := none
  /-- Namespaces to import, between commas. -/
  namespaces : Option String := none
  deriving DecidableEq, Repr

/-- Which members start with made-up values, and how. -/
structure FixtureOptions where
  strategy : Option InterfaceStrategy := none
  /-- The type of the fixture. -/
  typeName : Option String := none
  /-- A new value, over the fixture field and the type. -/
  createFormat : Option String := none
  /-- The arguments of the fixture's constructor. -/
  constructorArguments : Option String := none
  /-- A statement that sets the fixture up, over the fixture field. -/
  setup : Option String := none
  /-- Namespaces to import, between commas. -/
  namespaces : Option String := none
  deriving DecidableEq, Repr

/-- What `inner` sets, and what `outer` sets where `inner` does not. -/
def BuilderOptions.overlay (outer inner : BuilderOptions) : BuilderOptions where
  methodPrefix := inner.methodPrefix.or outer.methodPrefix
  defaultCreator := inner.defaultCreator.or outer.defaultCreator
  nullableStrategy := inner.nullableStrategy.or outer.nullableStrategy
  unreachableSetters := inner.unreachableSetters.or outer.unreachableSetters
  implicitCast := inner.implicitCast.or outer.implicitCast
  factoryMethod := inner.factoryMethod.or outer.factoryMethod
  creatorProperty := inner.creatorProperty.or outer.creatorProperty
  emptyCollections := inner.emptyCollections.or outer.emptyCollections

/-- What `inner` sets, and what `outer` sets where `inner` does not. -/
def MockingOptions.overlay (outer inner : MockingOptions) : MockingOptions where
  strategy := inner.strategy.or outer.strategy
  typeFormat := inner.typeFormat.or outer.typeFormat
  valueFormat := inner.valueFormat.or outer.valueFormat
  objectFormat := inner.objectFormat.or outer.objectFormat
  namespaces := inner.namespaces.or outer.namespaces

/-- What `inner` sets, and what `outer` sets where `inner` does not. -/
def FixtureOptions.overlay (outer inner : FixtureOptions) : FixtureOptions where
  strategy := inner.strategy.or outer.strategy
  typeName := inner.typeName.or outer.typeName
  createFormat := inner.createFormat.or outer.createFormat
  constructorArguments := inner.constructorArguments.or outer.constructorArguments
  setup := inner.setup.or outer.setup
  namespaces := inner.namespaces.or outer.namespaces

/-- Whether no option is set. -/
def BuilderOptions.isEmpty (options : BuilderOptions) : Bool :=
  options == {}

/-- Whether no option is set. -/
def MockingOptions.isEmpty (options : MockingOptions) : Bool :=
  options == {}

/-- Whether no option is set. -/
def FixtureOptions.isEmpty (options : FixtureOptions) : Bool :=
  options == {}

/-- The options of all domains. -/
structure Options where
  builder : BuilderOptions := {}
  mocking : MockingOptions := {}
  fixture : FixtureOptions := {}
  deriving DecidableEq, Repr

/-- Where the options of a layer come from. -/
inductive Scope where
  | assembly
  | type
  | invocation
  deriving DecidableEq, Repr

/-- What one scope sets. -/
structure Layer where
  scope : Scope
  options : Options := {}
  deriving DecidableEq, Repr

namespace Options

/-- What `inner` sets, and what `outer` sets where `inner` does not. -/
def overlay (outer inner : Options) : Options where
  builder := outer.builder.overlay inner.builder
  mocking := outer.mocking.overlay inner.mocking
  fixture := outer.fixture.overlay inner.fixture

/-- Whether no option is set. -/
def isEmpty (options : Options) : Bool :=
  options.builder.isEmpty && options.mocking.isEmpty && options.fixture.isEmpty

/-- The options of several layers, from the outermost to the innermost. -/
def merged (layers : List Layer) : Options :=
  layers.foldl (fun options layer => options.overlay layer.options) {}

@[simp]
theorem empty_overlay (options : Options) : overlay {} options = options := by
  simp [overlay, BuilderOptions.overlay, MockingOptions.overlay, FixtureOptions.overlay]

@[simp]
theorem overlay_empty (options : Options) : options.overlay {} = options := by
  simp [overlay, BuilderOptions.overlay, MockingOptions.overlay, FixtureOptions.overlay]

end Options

end FluentGen
