import FluentGen.Text.Segment
import FluentGen.TypeRef
/-!
# Declared types

What a compiled program declares: types with their members, and the attributes applied to them.

## Main definitions
* `Accessibility`, `Location`: who may call a declaration, and where it stands.
* `AttributeValue`, `Attribute`: an attribute application with its arguments.
* `TypeParameter`, `Parameter`, `Constructor`, `Property`, `Field`, `Method`: members.
* `NamedType`: a declared type.
* `NamedType.selfRef`, `NamedType.bindingsFor`: the type applied to its own parameters, and the
  types that a reference puts in their place.
-/
namespace FluentGen

/-- The declared accessibilities, from the least to the most visible. -/
inductive Accessibility where
  | privateAccess | privateProtectedAccess | protectedAccess
  | internalAccess | protectedInternalAccess | publicAccess
  deriving DecidableEq, Repr

/-- The position of an accessibility in that order. -/
def Accessibility.rank : Accessibility → Nat
  | .privateAccess => 0
  | .privateProtectedAccess => 1
  | .protectedAccess => 2
  | .internalAccess => 3
  | .protectedInternalAccess => 4
  | .publicAccess => 5

/-- Whether code of the same assembly can call the member from outside its class. -/
def Accessibility.isAssemblyVisible : Accessibility → Bool
  | .internalAccess | .protectedInternalAccess | .publicAccess => true
  | _ => false

@[grind =]
theorem Accessibility.isAssemblyVisible_eq (a : Accessibility) :
    a.isAssemblyVisible = decide (Accessibility.internalAccess.rank ≤ a.rank) := by
  cases a <;> rfl

/-- A position in a source file. -/
structure Location where
  file : String
  line : UInt32
  column : UInt32
  deriving DecidableEq, Repr

/-- The text of a location: file, line and column between colons. -/
def Location.display (location : Location) : String :=
  location.file ++ ":" ++ toString location.line.toNat ++ ":" ++ toString location.column.toNat

/-- A constant argument of an attribute. -/
inductive AttributeValue where
  | flag (value : Bool)
  | number (value : Int64)
  | text (value : String)
  | type (value : TypeRef)
  deriving DecidableEq, Repr

/-- An attribute application; an argument that was left out is `none`. -/
structure Attribute where
  name : String
  arguments : List (Option AttributeValue) := []
  location : Option Location := none
  deriving DecidableEq, Repr

/-- The name of an attribute without the ending `Attribute` and without its namespace. -/
def Attribute.shortName (a : Attribute) : String :=
  Text.lastSegment (Text.dropSuffix "Attribute" a.name)

/-- Whether the attribute is called `name`, with or without namespace and ending. -/
def Attribute.isNamed (a : Attribute) (name : String) : Bool :=
  a.shortName == name

/-- The argument at a position, if it was given. -/
def Attribute.argument? (a : Attribute) (position : Nat) : Option AttributeValue :=
  a.arguments[position]?.join

/-- A type parameter with its constraints. -/
structure TypeParameter where
  name : String
  constraintTypes : List TypeRef := []
  /-- Constrained to reference types. -/
  referenceType : Bool := false
  /-- Constrained to value types. -/
  valueType : Bool := false
  /-- Constrained to types with a parameterless constructor. -/
  defaultConstructor : Bool := false
  deriving DecidableEq, Repr

/-- A parameter of a method or constructor. -/
structure Parameter where
  name : String
  type : TypeRef
  deriving DecidableEq, Repr

/-- An instance constructor. -/
structure Constructor where
  accessibility : Accessibility := .privateAccess
  parameters : List Parameter := []
  location : Option Location := none
  deriving DecidableEq, Repr

/-- A property; an accessor that is missing is `none`. -/
structure Property where
  name : String
  type : TypeRef
  getter : Option Accessibility := none
  setter : Option Accessibility := none
  isStatic : Bool := false
  /-- Without storage of its own. -/
  isComputed : Bool := false
  isIndexer : Bool := false
  deriving DecidableEq, Repr

/-- Whether everyone can read and assign the property. -/
def Property.isPubliclySettable (property : Property) : Bool :=
  property.getter == some .publicAccess && property.setter == some .publicAccess

/-- Whether everyone can read the property but not assign it. -/
def Property.isPubliclyReadOnly (property : Property) : Bool :=
  property.getter == some .publicAccess && property.setter != some .publicAccess

/-- A field. -/
structure Field where
  name : String
  type : TypeRef
  isConst : Bool := false
  isStatic : Bool := false
  deriving DecidableEq, Repr

/-- A method, or an operator under its metadata name. -/
structure Method where
  name : String
  parameters : List Parameter := []
  isStatic : Bool := false
  location : Option Location := none
  deriving DecidableEq, Repr

/-- A declared type; an empty qualifier stands for the global namespace. -/
structure NamedType where
  name : String
  qualifier : String := ""
  kind : TypeKind := .classType
  isAbstract : Bool := false
  typeParameters : List TypeParameter := []
  baseType : Option TypeRef := none
  interfaces : List TypeRef := []
  constructors : List Constructor := []
  properties : List Property := []
  fields : List Field := []
  methods : List Method := []
  attributes : List Attribute := []
  location : Option Location := none
  deriving DecidableEq, Repr

namespace NamedType

/-- The key of the definition. -/
def key (type : NamedType) : String :=
  definitionKey type.qualifier type.name type.typeParameters.length

/-- The name after its namespace. -/
def fullName (type : NamedType) : String :=
  if type.qualifier.isEmpty then type.name else type.qualifier ++ "." ++ type.name

/-- The reference to the definition with its own type parameters as arguments. -/
def selfRef (type : NamedType) : TypeRef :=
  .generic type.qualifier type.name type.kind
    (type.typeParameters.map fun parameter => .typeParameter parameter.name)

/-- What `reference` puts in the place of each type parameter. A parameter that would stand for
itself is left unbound, and the last of several parameters of one name counts. -/
def bindingsFor (type : NamedType) (reference : TypeRef) : Bindings :=
  (((type.typeParameters.map (·.name)).zip reference.arguments).filter fun (name, argument) =>
    !(argument.kind == .typeParameter && argument.name == name)).reverse

/-- The first attribute called `name`. -/
def attribute? (type : NamedType) (name : String) : Option Attribute :=
  type.attributes.find? (·.isNamed name)

end NamedType

end FluentGen
