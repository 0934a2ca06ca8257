import FluentGen.GeneratedClass
/-!
# Hand-written members

What the questions to a hand-written part mean in terms of the members that its author declared.

## Main statements
* `NamedType.mem_of_field?`, `NamedType.mem_of_defaultField?`: fields that are found are declared.
* `NamedType.hasBuild_iff` and the like: methods with a meaning for the generator.
-/
namespace FluentGen

namespace NamedType

variable {builder : NamedType}

theorem mem_of_field? {name : String} {field : Field} (h : builder.field? name = some field) :
    field ∈ builder.fields ∧ field.name = name := by
  have hmem := List.mem_of_find?_eq_some h
  exact ⟨List.mem_reverse.mp hmem, by simpa using List.find?_some h⟩

theorem field?_eq_none_iff {name : String} :
    builder.field? name = none ↔ ∀ field ∈ builder.fields, field.name ≠ name := by
  simp [field?]

theorem mem_of_defaultField? {pascalName : String} {field : Field}
    (h : builder.defaultField? pascalName = some field) :
    (field ∈ builder.fields ∧ field.name = names.defaultStart ++ pascalName) ∧
      (field.isConst = true ∨ field.isStatic = true) := by
  obtain ⟨found, fixed⟩ := Option.filter_eq_some_iff.mp h
  exact ⟨mem_of_field? found, by simpa using fixed⟩

theorem declares_eq_false_iff {name : String} :
    builder.declares name = false ↔
      (∀ method ∈ builder.methods, method.name ≠ name) ∧
        (∀ field ∈ builder.fields, field.name ≠ name) ∧
        ∀ property ∈ builder.properties, property.name ≠ name := by
  simp [declares, and_assoc]

theorem mem_overloads_iff {name : String} {method : Method} :
    method ∈ builder.overloads name ↔ method ∈ builder.methods ∧ method.name = name := by
  simp [overloads]

theorem overloads_eq_nil {name : String} (h : builder.declares name = false) :
    builder.overloads name = [] := by
  refine List.eq_nil_iff_forall_not_mem.mpr fun method hmethod => ?_
  obtain ⟨hmem, called⟩ := mem_overloads_iff.mp hmethod
  exact (declares_eq_false_iff.mp h).1 method hmem called

theorem hasBuild_iff : builder.hasBuild = true ↔
    ∃ method ∈ builder.methods,
      method.name = names.build ∧ method.isStatic = false ∧ method.parameters = [] := by
  simp [hasBuild, mem_overloads_iff, and_assoc]

theorem hasBuildMany_iff : builder.hasBuildMany = true ↔
    ∃ method ∈ builder.methods, method.name = names.buildMany := by
  simp [hasBuildMany, overloads]

theorem hasBuildDefault_iff : builder.hasBuildDefault = true ↔
    ∃ method ∈ builder.methods, method.name = names.buildDefault ∧ method.isStatic = true := by
  simp [hasBuildDefault, mem_overloads_iff, and_assoc]

theorem hasPreBuild_iff : builder.hasPreBuild = true ↔
    ∃ method ∈ builder.methods, method.name = names.preBuild ∧ method.parameters = [] := by
  simp [hasPreBuild, mem_overloads_iff, and_assoc]

theorem hasPostBuild_iff : builder.hasPostBuild = true ↔
    ∃ method ∈ builder.methods, method.name = names.postBuild ∧ method.parameters.length = 1 := by
  simp [hasPostBuild, mem_overloads_iff, and_assoc]

theorem generatesConstructor_eq_false_iff :
    GeneratedClass.generatesConstructor builder = false ↔
      ∃ constructor ∈ builder.constructors, constructor.parameters = [] := by
  simp [GeneratedClass.generatesConstructor, defaultConstructor?]

end NamedType

end FluentGen
