import FluentGen.Error
import FluentGen.Options
/-!
# Reading options from attributes

The options of an attribute are its arguments by position. An argument that was left out leaves its
option unset; an argument of the wrong shape is an error that names the attribute and the option.

## Main definitions
* `Attribute.textOption?`, `flagOption?`, `choiceOption?`: one option.
* `BuilderOptions.ofAttribute`, `MockingOptions.ofAttribute`, `FixtureOptions.ofAttribute`: the
  options of one attribute.
* `Layer.ofAttributes`, `Layer.ofInvocation`: the layer of a scope.
-/
namespace FluentGen

/-- The attribute that asks for a builder. -/
def makeBuilder : String := "MakeBuilder"

namespace Attribute

/-- The refusal of the value of an option. -/
def refuse {α : Type} (a : Attribute) (option : String) (problem : OptionProblem) :
    Except GenerationError α :=
  .error (.invalidOption (a.name ++ "." ++ option) problem)

/-- An option that is a text. -/
def textOption? (a : Attribute) (option : String) (position : Nat) :
    Except GenerationError (Option String) :=
  match a.argument? position with
  | none => .ok none
  | some (.text value) => .ok (some value)
  | some found => a.refuse option (.expectedText found)

/-- An option that is a Boolean. -/
def flagOption? (a : Attribute) (option : String) (position : Nat) :
    Except GenerationError (Option Bool) :=
  match a.argument? position with
  | none => .ok none
  | some (.flag value) => .ok (some value)
  | some found => a.refuse option (.expectedFlag found)

/-- The choice that a value stands for: its number, or its name after any qualification. -/
def choice? {α : Type} (choices : List (String × α)) : AttributeValue → Option α
  | .number value =>
    if 0 ≤ value.toInt then choices[value.toInt.toNat]?.map (·.2) else none
  | .text name => choices.lookup (Text.lastSegment name)
  | _ => none

/-- An option that is one of several choices. -/
def choiceOption? {α : Type} (choices : List (String × α)) (a : Attribute) (option : String)
    (position : Nat) : Except GenerationError (Option α) :=
  match a.argument? position with
  | none => .ok none
  | some value =>
    match choice? choices value with
    | some choice => .ok (some choice)
    | none => a.refuse option (.unsupported value)

/-- The type named by an attribute that asks for a builder. -/
def entity? (a : Attribute) : Option TypeRef :=
  match a.argument? 0 with
  | some (.type type) => some type
  | _ => none

end Attribute

/-- The nullable strategies by name, in the order of their numbers. -/
def NullableStrategy.choices : List (String × NullableStrategy) :=
  [("Default", .default), ("Disabled", .disabled), ("Enabled", .enabled)]

/-- The strategies for interfaces by name, in the order of their numbers. -/
def InterfaceStrategy.choices : List (String × InterfaceStrategy) :=
  [("None", .none), ("All", .all), ("WithoutGenericCollection", .withoutGenericCollection)]

/-- The builder options of an attribute whose first option is at position `start`. -/
def BuilderOptions.ofAttribute (a : Attribute) (start : Nat) :
    Except GenerationError BuilderOptions := do
  let methodPrefix ← a.textOption? "buildingMethodsPrefix" start
  let defaultCreator ← a.flagOption? "defaultStaticCreator" (start + 1)
  let nullableStrategy ←
    a.choiceOption? NullableStrategy.choices "nullableStrategy" (start + 2)
  let unreachableSetters ← a.flagOption? "generateMethodsForUnreachableProperties" (start + 3)
  let implicitCast ← a.flagOption? "implicitCast" (start + 4)
  let factoryMethod ← a.textOption? "staticFactoryMethodName" (start + 5)
  let creatorProperty ← a.flagOption? "generateStaticPropertyForBuilderCreation" (start + 6)
  let emptyCollections ← a.flagOption? "initializeCollectionsWithEmpty" (start + 7)
  return { methodPrefix, defaultCreator, nullableStrategy, unreachableSetters, implicitCast,
           factoryMethod, creatorProperty, emptyCollections }

/-- The mocking options of an attribute. -/
def MockingOptions.ofAttribute (a : Attribute) : Except GenerationError MockingOptions := do
  let strategy ← a.choiceOption? InterfaceStrategy.choices "strategy" 0
  let typeFormat ← a.textOption? "typeDeclarationFormat" 1
  let valueFormat ← a.textOption? "fieldDefaultValueAssignmentFormat" 2
  let objectFormat ← a.textOption? "returnObjectFormat" 3
  let namespaces ← a.textOption? "additionalNamespaces" 4
  return { strategy, typeFormat, valueFormat, objectFormat, namespaces }

/-- The fixture options of an attribute. -/
def FixtureOptions.ofAttribute (a : Attribute) : Except GenerationError FixtureOptions := do
  let strategy ← a.choiceOption? InterfaceStrategy.choices "strategy" 0
  let typeName ← a.textOption? "fixtureTypeName" 1
  let createFormat ← a.textOption? "createSingleFormat" 2
  let constructorArguments ← a.textOption? "constructorParameters" 3
  let setup ← a.textOption? "additionalConfiguration" 4
  let namespaces ← a.textOption? "additionalNamespaces" 5
  return { strategy, typeName, createFormat, constructorArguments, setup, namespaces }

/-- The mocking options for the Moq library. -/
def MockingOptions.moq : MockingOptions where
  strategy := some .withoutGenericCollection
  typeFormat := some "Mock<{0}>"
  valueFormat := some "new Mock<{0}>()"
  objectFormat := some "{0}.Object"
  namespaces := some "Moq"

/-- The fixture options for the AutoFixture library. -/
def FixtureOptions.autoFixture : FixtureOptions where
  strategy := some .withoutGenericCollection
  typeName := some "AutoFixture.Fixture"
  createFormat := some "{0}.Create<{1}>()"
  namespaces := some "AutoFixture"

/-- The options that an attribute sets in any domain. The attribute of a library sets what the
library needs below its own arguments; an attribute of another name sets nothing. -/
def Options.ofAttribute (a : Attribute) : Except GenerationError Options :=
  if a.isNamed "BuilderConfiguration" then
    (BuilderOptions.ofAttribute a 0).map fun builder => { builder }
  else if a.isNamed "MockingConfiguration" then
    (MockingOptions.ofAttribute a).map fun mocking => { mocking }
  else if a.isNamed "MoqConfiguration" then
    (MockingOptions.ofAttribute a).map fun mocking => { mocking := MockingOptions.moq.overlay mocking }
  else if a.isNamed "FixtureConfiguration" then
    (FixtureOptions.ofAttribute a).map fun fixture => { fixture }
  else if a.isNamed "AutoFixtureConfiguration" then
    (FixtureOptions.ofAttribute a).map fun fixture =>
      { fixture := FixtureOptions.autoFixture.overlay fixture }
  else .ok {}

/-- The options that several attributes set, a later one over those before it. -/
def Options.ofAttributes (outer : Options) : List Attribute → Except GenerationError Options
  | [] => .ok outer
  | a :: attributes => do
    let inner ← Options.ofAttribute a
    Options.ofAttributes (outer.overlay inner) attributes

namespace Layer

/-- The layer of the attributes of an assembly or a class. -/
def ofAttributes (scope : Scope) (attributes : List Attribute) : Except GenerationError Layer :=
  (Options.ofAttributes {} attributes).map fun options => { scope, options }

/-- The layer of the application that asks for a builder; its first argument is the built type. -/
def ofInvocation (a : Attribute) : Except GenerationError Layer :=
  (BuilderOptions.ofAttribute a 1).map fun builder =>
    { scope := .invocation, options := { builder } }

end Layer

end FluentGen
