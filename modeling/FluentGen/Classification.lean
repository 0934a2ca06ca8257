import FluentGen.Collection
import FluentGen.Configuration
/-!
# Classification of members

How a builder treats a member follows from its type and the strategies of the configuration.

## Main definitions
* `Classification`: mocked, made up by a fixture, a collection, or neither.
* `classify`: the classification of a type.
-/
namespace FluentGen

/-- How the builder treats a member. -/
structure Classification where
  /-- A mock stands behind the member. -/
  mockable : Bool
  /-- The fixture makes up the first value. -/
  fakeable : Bool
  collection : Option Collection
  deriving DecidableEq, Repr

/-- Whether the member has neither a mock nor a made-up value. -/
def Classification.needsExplicitDefault (c : Classification) : Bool :=
  !c.mockable && !c.fakeable

/-- Whether a strategy covers a type, given that it is an interface of a generic sequence. -/
def InterfaceStrategy.covers (strategy : InterfaceStrategy) (genericSequence : Bool) : Bool :=
  match strategy with
  | .none => false
  | .all => true
  | .withoutGenericCollection => !genericSequence

/-- The interfaces that decide about a type; a string is not seen as a sequence of characters. -/
def Compilation.decidingInterfaces (model : Compilation) (type : TypeRef) : List TypeRef :=
  if type.isString then [] else model.interfaces type

/-- The classification of a type. Mocking goes before making values up. -/
def classify (model : Compilation) (config : Configuration) (type : TypeRef) : Classification :=
  let interfaces := model.decidingInterfaces type.bare
  let genericSequence := type.isInterface &&
    interfaces.any fun interface => interface.key == Framework.enumerableKey
  let mockable := type.isInterface && config.mocking.strategy.covers genericSequence
  { mockable := mockable
    fakeable := !mockable && config.fixture.strategy.covers genericSequence
    collection := model.collectionOf? type.bare interfaces }

end FluentGen
