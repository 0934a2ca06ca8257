import FluentGen.Json.Reader
import FluentGen.Snapshot.Schemas
/-!
# Reading a snapshot

## Main definitions
* `typeRef`, `attribute?`, `namedType` and the like: the decoders of the parts of a snapshot.
* `Compilation.ofJson`, `Compilation.ofText`: the compilation that a document describes.
-/
namespace FluentGen

namespace Snapshot

/-- How many containers may nest in a document. -/
def nestingLimit : Nat := 127

def typeKind : Decoder TypeKind :=
  enumeration TypeKind.label TypeKind.all

def accessibility : Decoder Accessibility :=
  enumeration Accessibility.label Accessibility.all

/-- Reads a reference with less than `levels` references nested in it. -/
def typeRefWithin : Nat → Decoder TypeRef
  | 0 => fun _ _ => .error .malformed
  | levels + 1 => record typeRefSchema fun fields =>
    TypeRef.mk <$> fields.required "name" text
      <*> fields.optional "namespace" (nullable text) none
      <*> fields.optional "kind" typeKind .classType
      <*> fields.optional "type_arguments" (listOf (typeRefWithin levels)) []
      <*> fields.optional "nullable" flag false

/-- Reads a reference. Each nested one uses up two levels of the nesting limit. -/
def typeRef : Decoder TypeRef := fun depth =>
  typeRefWithin (depth + 1) depth

def location : Decoder Location :=
  record locationSchema fun fields =>
    Location.mk <$> fields.required "file" text
      <*> fields.required "line" word
      <*> fields.required "column" word

/-- Reads the argument of an attribute: a Boolean, a signed 64-bit integer, a string or a
reference. -/
def attributeValue : Decoder AttributeValue := fun depth value =>
  let refused : Except ReadError AttributeValue := .error (.mismatch (.noVariant "AttributeValue"))
  if value.isReadable depth then
    match value with
    | .bool value => .ok (.flag value)
    | .number number =>
      match number.integer? with
      | some n => if n ≤ Int64.maxValue.toInt then .ok (.number (Int64.ofInt n)) else refused
      | none => refused
    | .string (some text) => .ok (.text text)
    | other =>
      match typeRef depth other with
      | .ok type => .ok (.type type)
      | .error _ => refused
  else .error .malformed

def attributeData : Decoder Attribute :=
  record attributeSchema fun fields =>
    Attribute.mk <$> fields.required "name" text
      <*> fields.optional "arguments" (listOf (nullable attributeValue)) []
      <*> fields.optional "location" (nullable location) none

def typeParameter : Decoder TypeParameter :=
  record typeParameterSchema fun fields =>
    TypeParameter.mk <$> fields.required "name" text
      <*> fields.optional "constraint_types" (listOf typeRef) []
      <*> fields.optional "reference_type" flag false
      <*> fields.optional "value_type" flag false
      <*> fields.optional "constructor" flag false

def parameter : Decoder Parameter :=
  record parameterSchema fun fields =>
    Parameter.mk <$> fields.required "name" text
      <*> fields.required "type" typeRef

def constructor : Decoder Constructor :=
  record constructorSchema fun fields =>
    Constructor.mk <$> fields.optional "accessibility" accessibility .privateAccess
      <*> fields.optional "parameters" (listOf parameter) []
      <*> fields.optional "location" (nullable location) none

def property : Decoder Property :=
  record propertySchema fun fields =>
    Property.mk <$> fields.required "name" text
      <*> fields.required "type" typeRef
      <*> fields.optional "getter" (nullable accessibility) none
      <*> fields.optional "setter" (nullable accessibility) none
      <*> fields.optional "is_static" flag false
      <*> fields.optional "is_computed" flag false
      <*> fields.optional "is_indexer" flag false

def field : Decoder Field :=
  record fieldSchema fun fields =>
    Field.mk <$> fields.required "name" text
      <*> fields.required "type" typeRef
      <*> fields.optional "is_const" flag false
      <*> fields.optional "is_static" flag false

def method : Decoder Method :=
  record methodSchema fun fields =>
    Method.mk <$> fields.required "name" text
      <*> fields.optional "parameters" (listOf parameter) []
      <*> fields.optional "is_static" flag false
      <*> fields.optional "location" (nullable location) none

def namedType : Decoder NamedType :=
  record namedTypeSchema fun fields =>
    NamedType.mk <$> fields.required "name" text
      <*> fields.optional "namespace" text ""
      <*> fields.optional "kind" typeKind .classType
      <*> fields.optional "is_abstract" flag false
      <*> fields.optional "type_parameters" (listOf typeParameter) []
      <*> fields.optional "base_type" (nullable typeRef) none
      <*> fields.optional "interfaces" (listOf typeRef) []
      <*> fields.optional "constructors" (listOf constructor) []
      <*> fields.optional "properties" (listOf property) []
      <*> fields.optional "fields" (listOf field) []
      <*> fields.optional "methods" (listOf method) []
      <*> fields.optional "attributes" (listOf attributeData) []
      <*> fields.optional "location" (nullable location) none

def compilation : Decoder Compilation :=
  record compilationSchema fun fields =>
    (fun nullableEnabled assemblyAttributes types =>
        { nullableEnabled, assemblyAttributes, types }) <$>
      fields.optional "nullable_enabled" flag false
      <*> fields.optional "assembly_attributes" (listOf attributeData) []
      <*> fields.optional "types" (listOf namedType) []

end Snapshot

/-- The compilation that a document describes. -/
def Compilation.ofJson (document : Json) : Except ReadError Compilation :=
  Snapshot.compilation Snapshot.nestingLimit document

/-- The compilation that a text describes. What follows the document may only be blanks; anything
else is noticed last. -/
def Compilation.ofText (text : String) : Except ReadError Compilation :=
  let (document, complete) := Json.ofText text
  (Compilation.ofJson document).bind fun model =>
    if complete then .ok model else .error .malformed

end FluentGen
