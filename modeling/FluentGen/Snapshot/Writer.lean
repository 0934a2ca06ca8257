import FluentGen.Json.Printer
import FluentGen.Snapshot.Schemas
/-!
# Writing a snapshot

Records are written as objects with all their fields in the order of their schemas. Only the
namespace, the arguments and the annotation of a reference and the location of a declaration are
left out when they are absent.

## Main definitions
* `TypeRef.toJson` … `NamedType.toJson`: the document of a part of a snapshot.
* `Compilation.toText`: the text of a snapshot.
-/
namespace FluentGen

namespace Json

/-- An object with string keys. -/
def record (members : List (String × Json)) : Json :=
  .object (members.map fun (key, value) => (.text key, value))

/-- An array of encoded values. -/
def list {α : Type} (encode : α → Json) (values : List α) : Json :=
  .array (values.map encode)

/-- An encoded value, or `null`. -/
def option {α : Type} (encode : α → Json) : Option α → Json
  | some value => encode value
  | none => .null

/-- The number `n`. -/
def int (n : Int) : Json :=
  .number (.ofInt n)

/-- A member that is left out when its value is absent. -/
def member? {α : Type} (key : String) (encode : α → Json) : Option α → List (String × Json)
  | some value => [(key, encode value)]
  | none => []

end Json

open Json (record list option text int member?)

mutual
/-- The document of a reference. -/
def TypeRef.toJson : TypeRef → Json
  | ⟨name, qualifier, kind, arguments, nullable⟩ =>
    record <|
      [("name", text name)] ++ member? "namespace" text qualifier ++ [("kind", text kind.label)] ++
        (match arguments with
          | [] => []
          | first :: others =>
            [("type_arguments", .array (first.toJson :: TypeRef.allToJson others))]) ++
        (if nullable then [("nullable", .bool true)] else [])
/-- The documents of several references. -/
def TypeRef.allToJson : List TypeRef → List Json
  | [] => []
  | type :: types => type.toJson :: TypeRef.allToJson types
end

def Location.toJson (location : Location) : Json :=
  record [("file", text location.file), ("line", int location.line.toNat),
    ("column", int location.column.toNat)]

def AttributeValue.toJson : AttributeValue → Json
  | .flag value => .bool value
  | .number value => int value.toInt
  | .text value => .text value
  | .type value => value.toJson

def Attribute.toJson (a : Attribute) : Json :=
  record <|
    [("name", text a.name), ("arguments", list (option AttributeValue.toJson) a.arguments)] ++
      member? "location" Location.toJson a.location

def TypeParameter.toJson (parameter : TypeParameter) : Json :=
  record [("name", text parameter.name),
    ("constraint_types", list TypeRef.toJson parameter.constraintTypes),
    ("reference_type", .bool parameter.referenceType), ("value_type", .bool parameter.valueType),
    ("constructor", .bool parameter.defaultConstructor)]

def Parameter.toJson (parameter : Parameter) : Json :=
  record [("name", text parameter.name), ("type", parameter.type.toJson)]

def Constructor.toJson (constructor : Constructor) : Json :=
  record <|
    [("accessibility", text constructor.accessibility.label),
      ("parameters", list Parameter.toJson constructor.parameters)] ++
      member? "location" Location.toJson constructor.location

def Accessibility.toJson (accessibility : Accessibility) : Json :=
  text accessibility.label

def Property.toJson (property : Property) : Json :=
  record [("name", text property.name), ("type", property.type.toJson),
    ("getter", option Accessibility.toJson property.getter),
    ("setter", option Accessibility.toJson property.setter), ("is_static", .bool property.isStatic),
    ("is_computed", .bool property.isComputed), ("is_indexer", .bool property.isIndexer)]

def Field.toJson (field : Field) : Json :=
  record [("name", text field.name), ("type", field.type.toJson), ("is_const", .bool field.isConst),
    ("is_static", .bool field.isStatic)]

def Method.toJson (method : Method) : Json :=
  record <|
    [("name", text method.name), ("parameters", list Parameter.toJson method.parameters),
      ("is_static", .bool method.isStatic)] ++ member? "location" Location.toJson method.location

def NamedType.toJson (type : NamedType) : Json :=
  record <|
    [("name", text type.name), ("namespace", text type.qualifier), ("kind", text type.kind.label),
      ("is_abstract", .bool type.isAbstract),
      ("type_parameters", list TypeParameter.toJson type.typeParameters),
      ("base_type", option TypeRef.toJson type.baseType),
      ("interfaces", list TypeRef.toJson type.interfaces),
      ("constructors", list Constructor.toJson type.constructors),
      ("properties", list Property.toJson type.properties),
      ("fields", list Field.toJson type.fields), ("methods", list Method.toJson type.methods),
      ("attributes", list Attribute.toJson type.attributes)] ++
      member? "location" Location.toJson type.location

namespace Compilation

/-- The document of a snapshot. -/
def toJson (model : Compilation) : Json :=
  record [("nullable_enabled", .bool model.nullableEnabled),
    ("assembly_attributes", list Attribute.toJson model.assemblyAttributes),
    ("types", list NamedType.toJson model.types)]

/-- The text of a snapshot. -/
def toText (model : Compilation) : String :=
  model.toJson.pretty

end Compilation

end FluentGen
