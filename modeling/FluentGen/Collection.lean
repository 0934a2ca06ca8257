import FluentGen.Inheritance
/-!
# Collections

Which types hold items, and which class stands behind them when a builder fills one.

## Main definitions
* `Collection`: the kinds of collections, with `itemType` and `backingType`.
* `Compilation.isAppendable`: the classes that can be made empty and filled item by item.
* `Compilation.collectionOf?`: the kind of a type, from the interfaces it implements.
-/
namespace FluentGen

/-- A kind of collection. -/
inductive Collection where
  /-- An interface of sequences, which a set or a list stands behind. -/
  | interfaceSequence (element : TypeRef) (setLike : Bool)
  /-- A class of sequences with a method that appends. -/
  | concreteSequence (element : TypeRef)
  | array (element : TypeRef)
  /-- An interface of maps, which a dictionary stands behind. -/
  | interfaceMap (key value : TypeRef)
  /-- A class of maps. -/
  | concreteMap (key value : TypeRef)
  deriving DecidableEq, Repr

namespace Collection

/-- Whether items are entries with a key. -/
def isMap : Collection → Bool
  | .interfaceMap .. | .concreteMap .. => true
  | _ => false

/-- The type of one item. -/
def itemType : Collection → TypeRef
  | .interfaceSequence element _ | .concreteSequence element | .array element => element
  | .interfaceMap key value | .concreteMap key value => Framework.keyValuePairOf key value

/-- The type that is instantiated for a member of type `declared`. -/
def backingType (collection : Collection) (declared : TypeRef) : TypeRef :=
  match collection with
  | .interfaceSequence element true => Framework.hashSetOf element
  | .interfaceSequence element false => Framework.listOf element
  | .interfaceMap key value => Framework.dictionaryOf key value
  | .array element => .arrayOf element
  | .concreteSequence _ | .concreteMap _ _ => declared.bare

end Collection

/-- Whether the class can be made without arguments. -/
def NamedType.isConstructible (type : NamedType) : Bool :=
  !type.isAbstract &&
    (type.constructors.isEmpty || type.constructors.any fun constructor =>
      constructor.parameters.isEmpty && constructor.accessibility.isAssemblyVisible)

/-- Whether the class itself declares a method that appends one item. -/
def NamedType.declaresAdd (type : NamedType) : Bool :=
  type.methods.any fun method =>
    method.name == Framework.addMethod && !method.isStatic && method.parameters.length == 1

namespace Compilation

/-- Whether `type` or one of its base classes declares a method that appends; at most `bound`
classes are asked, and none whose key is in `visited`. -/
def inheritsAddFrom (model : Compilation) : Nat → List String → NamedType → Bool
  | 0, _, _ => false
  | bound + 1, visited, type =>
    if type.key ∈ visited then false
    else if type.declaresAdd then true
    else
      match type.baseType.bind model.lookup? with
      | some base => inheritsAddFrom model bound (type.key :: visited) base
      | none => false

/-- Whether the class declares or inherits a method that appends. No chain has more classes than
the snapshot and the framework together. -/
def inheritsAdd (model : Compilation) (type : NamedType) : Bool :=
  model.inheritsAddFrom (model.types.length + Framework.definitions.length + 1) [] type

/-- Whether the class behind a reference can be made empty and filled item by item. -/
def isAppendable (model : Compilation) (type : TypeRef) : Bool :=
  (model.lookup? type).any fun declaration =>
    declaration.isConstructible && model.inheritsAdd declaration

/-- The kind of collection that a type is, given the interfaces it is or implements. An array is
one for itself, a string is none. The first map interface decides, then the first sequence. -/
def collectionOf? (model : Compilation) (type : TypeRef) (interfaces : List TypeRef) :
    Option Collection :=
  match type.elementType? with
  | some element => some (.array element)
  | none =>
    if type.isString then none
    else
      match interfaces.find? fun interface => interface.key ∈ Framework.mapKeys with
      | some map =>
        match map.arguments with
        | [key, value] =>
          if type.isInterface then some (.interfaceMap key value)
          else if (model.lookup? type).any (·.isConstructible) then some (.concreteMap key value)
          else none
        | _ => none
      | none =>
        (interfaces.find? fun interface => interface.key == Framework.enumerableKey).bind
          fun sequence => sequence.arguments.head?.bind fun element =>
            if type.isInterface then
              some (.interfaceSequence element
                (interfaces.any fun interface => interface.key ∈ Framework.setKeys))
            else if model.isAppendable type then some (.concreteSequence element)
            else none

end Compilation

end FluentGen
