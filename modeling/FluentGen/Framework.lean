import FluentGen.Compilation
/-!
# The collections of the framework

Snapshots rarely declare the framework's collection types, yet whether a type is a collection
depends on their interfaces. The definitions here stand in for those that a snapshot lacks.

## Main definitions
* `Framework.definitions`: the collection interfaces and classes.
* `Framework.listOf`, `hashSetOf`, `dictionaryOf`, `keyValuePairOf`: references to some of them.
* `Compilation.lookup?`: a declaration from the snapshot or, failing that, from the framework.
-/
namespace FluentGen

namespace Framework

/-- The namespace of the generic collections. -/
def collections : String := "System.Collections.Generic"

/-- The namespace of the base class for collections. -/
def objectModel : String := "System.Collections.ObjectModel"

/-- The method that appends one item to a sequence. -/
def addMethod : String := "Add"

/-- The key of the interface of all sequences. -/
def enumerableKey : String := definitionKey collections "IEnumerable" 1

/-- The keys of the interfaces of sets. -/
def setKeys : List String :=
  [definitionKey collections "ISet" 1, definitionKey collections "IReadOnlySet" 1]

/-- The keys of the interfaces of maps. -/
def mapKeys : List String :=
  [definitionKey collections "IDictionary" 2, definitionKey collections "IReadOnlyDictionary" 2]

/-- The list of `element`s. -/
def listOf (element : TypeRef) : TypeRef :=
  .generic collections "List" .classType [element]

/-- The set of `element`s. -/
def hashSetOf (element : TypeRef) : TypeRef :=
  .generic collections "HashSet" .classType [element]

/-- The map from `key`s to `value`s. -/
def dictionaryOf (key value : TypeRef) : TypeRef :=
  .generic collections "Dictionary" .classType [key, value]

/-- One entry of a map. -/
def keyValuePairOf (key value : TypeRef) : TypeRef :=
  .generic collections "KeyValuePair" .structType [key, value]

/-- A collection interface over the given references. -/
def interfaceOf (name : String) (arguments : List TypeRef) : TypeRef :=
  .generic collections name .interfaceType arguments

/-- The parameter of a sequence. -/
def item : List TypeRef := [.typeParameter "T"]

/-- The parameters of a map. -/
def entry : List TypeRef := [.typeParameter "TKey", .typeParameter "TValue"]

/-- An entry made of the parameters of a map. -/
def pair : List TypeRef := [keyValuePairOf (.typeParameter "TKey") (.typeParameter "TValue")]

/-- The definition of an interface. -/
def interface (name : String) (parameters : List TypeRef) (interfaces : List TypeRef) :
    NamedType where
  name := name
  qualifier := collections
  kind := .interfaceType
  isAbstract := true
  typeParameters := parameters.map fun parameter => { name := parameter.name }
  interfaces := interfaces

/-- The definition of a class. -/
def classDefinition (qualifier name : String) (parameters interfaces : List TypeRef) :
    NamedType where
  name := name
  qualifier := qualifier
  typeParameters := parameters.map fun parameter => { name := parameter.name }
  interfaces := interfaces

/-- The definition of a class of sequences, which declares a method that appends an item. -/
def sequenceClass (qualifier name : String) (interfaces : List TypeRef) : NamedType :=
  { classDefinition qualifier name item interfaces with
    methods :=
      [{ name := addMethod, parameters := [{ name := "item", type := .typeParameter "T" }] }] }

/-- The collection types, each over its own type parameters. -/
def definitions : List NamedType :=
  [interface "IEnumerable" item [],
    interface "ICollection" item [interfaceOf "IEnumerable" item],
    interface "IList" item [interfaceOf "ICollection" item],
    interface "IReadOnlyCollection" item [interfaceOf "IEnumerable" item],
    interface "IReadOnlyList" item [interfaceOf "IReadOnlyCollection" item],
    interface "ISet" item [interfaceOf "ICollection" item],
    interface "IReadOnlySet" item [interfaceOf "IReadOnlyCollection" item],
    interface "IDictionary" entry [interfaceOf "ICollection" pair],
    interface "IReadOnlyDictionary" entry [interfaceOf "IReadOnlyCollection" pair],
    sequenceClass collections "List" [interfaceOf "IList" item, interfaceOf "IReadOnlyList" item],
    sequenceClass collections "HashSet" [interfaceOf "ISet" item, interfaceOf "IReadOnlySet" item],
    sequenceClass collections "SortedSet"
      [interfaceOf "ISet" item, interfaceOf "IReadOnlySet" item],
    sequenceClass objectModel "Collection"
      [interfaceOf "IList" item, interfaceOf "IReadOnlyList" item],
    classDefinition collections "Dictionary" entry
      [interfaceOf "IDictionary" entry, interfaceOf "IReadOnlyDictionary" entry],
    classDefinition collections "SortedDictionary" entry
      [interfaceOf "IDictionary" entry, interfaceOf "IReadOnlyDictionary" entry]]

/-- The definition with the given key. -/
def find? (key : String) : Option NamedType :=
  definitions.find? (·.key == key)

end Framework

/-- The declaration behind a reference: that of the snapshot, or else that of the framework. -/
def Compilation.lookup? (model : Compilation) (reference : TypeRef) : Option NamedType :=
  (model.resolve? reference).or (Framework.find? reference.key)

end FluentGen
