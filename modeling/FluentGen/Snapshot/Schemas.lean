import FluentGen.Compilation
import FluentGen.Snapshot.Record
/-!
# The form of a snapshot

The keys of every record of a snapshot, in the order in which they are written, and the names of
the kinds and accessibilities.

## Main definitions
* `typeRefSchema` … `compilationSchema`: one schema for each record.
* `TypeKind.label`, `Accessibility.label`: names as a snapshot spells them.
-/
namespace FluentGen

/-- The name of a kind. -/
def TypeKind.label : TypeKind → String
  | .classType => "class"
  | .structType => "struct"
  | .interfaceType => "interface"
  | .enumType => "enum"
  | .delegateType => "delegate"
  | .typeParameter => "type_parameter"
  | .arrayType => "array"

/-- All kinds. -/
def TypeKind.all : List TypeKind :=
  [.classType, .structType, .interfaceType, .enumType, .delegateType, .typeParameter, .arrayType]

/-- The name of an accessibility. -/
def Accessibility.label : Accessibility → String
  | .privateAccess => "private"
  | .privateProtectedAccess => "private_protected"
  | .protectedAccess => "protected"
  | .internalAccess => "internal"
  | .protectedInternalAccess => "protected_internal"
  | .publicAccess => "public"

/-- All accessibilities. -/
def Accessibility.all : List Accessibility :=
  [.privateAccess, .privateProtectedAccess, .protectedAccess, .internalAccess,
    .protectedInternalAccess, .publicAccess]

namespace Snapshot

def typeRefSchema : Schema :=
  ⟨"TypeRef", ["name", "namespace", "kind", "type_arguments", "nullable"]⟩

def locationSchema : Schema :=
  ⟨"Location", ["file", "line", "column"]⟩

def attributeSchema : Schema :=
  ⟨"AttributeData", ["name", "arguments", "location"]⟩

def typeParameterSchema : Schema :=
  ⟨"TypeParameter", ["name", "constraint_types", "reference_type", "value_type", "constructor"]⟩

def parameterSchema : Schema :=
  ⟨"Parameter", ["name", "type"]⟩

def constructorSchema : Schema :=
  ⟨"Constructor", ["accessibility", "parameters", "location"]⟩

def propertySchema : Schema :=
  ⟨"Property", ["name", "type", "getter", "setter", "is_static", "is_computed", "is_indexer"]⟩

def fieldSchema : Schema :=
  ⟨"Field", ["name", "type", "is_const", "is_static"]⟩

def methodSchema : Schema :=
  ⟨"Method", ["name", "parameters", "is_static", "location"]⟩

def namedTypeSchema : Schema :=
  ⟨"NamedType", ["name", "namespace", "kind", "is_abstract", "type_parameters", "base_type",
    "interfaces", "constructors", "properties", "fields", "methods", "attributes", "location"]⟩

def compilationSchema : Schema :=
  ⟨"Snapshot", ["nullable_enabled", "assembly_attributes", "types"]⟩

end Snapshot

end FluentGen
