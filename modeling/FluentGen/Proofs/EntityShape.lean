import FluentGen.Proofs.DistinctBy
import Mathlib.Data.List.Nodup
/-!
# The shape of entities

What holds of every entity that is read off a declaration, whatever the declaration.

## Main definitions
* `Entity.WellFormed`: members are of the kind of their list, and names of properties come up once.

## Main statements
* `Entity.wellFormed_of_resolve`: the shape behind a reference is well-formed.
-/
namespace FluentGen

namespace Entity

/-- Members are of the kind of their list, and no property comes up twice in a list. -/
structure WellFormed (entity : Entity) : Prop where
  kind_parameters : ∀ member ∈ entity.parameters, member.kind = .constructorParameter
  kind_settable : ∀ member ∈ entity.settableProperties, member.kind = .settableProperty
  kind_readOnly : ∀ member ∈ entity.readOnlyProperties, member.kind = .readOnlyProperty
  nodup_settable : (entity.settableProperties.map (·.name)).Nodup
  nodup_readOnly : (entity.readOnlyProperties.map (·.name)).Nodup

variable {levels : List Level} {kind : MemberKind} {keep : Property → Bool}

/-- A collected property is declared on some level and has its type under the level's bindings. -/
theorem exists_of_mem_collectProperties {member : Member}
    (h : member ∈ collectProperties levels kind keep) :
    ∃ level ∈ levels, ∃ property ∈ level.declaration.properties,
      (property.isStatic = false ∧ property.isIndexer = false ∧ keep property) ∧
        member = ⟨property.name, property.type.substitute level.bindings, kind⟩ := by
  obtain ⟨level, hlevel, hmember⟩ := List.mem_flatMap.mp (mem_of_mem_distinctBy h)
  obtain ⟨property, hproperty, rfl⟩ := List.mem_map.mp hmember
  obtain ⟨declared, accepted⟩ := List.mem_filter.mp hproperty
  exact ⟨level, hlevel, property, declared, by simpa [and_assoc] using accepted, rfl⟩

theorem kind_of_mem_collectProperties {member : Member}
    (h : member ∈ collectProperties levels kind keep) : member.kind = kind := by
  obtain ⟨_, -, _, -, -, rfl⟩ := exists_of_mem_collectProperties h
  rfl

theorem nodup_collectProperties (levels : List Level) (kind : MemberKind) (keep : Property → Bool) :
    ((collectProperties levels kind keep).map (·.name)).Nodup :=
  nodup_map_distinctBy _

variable {model : Compilation} {entity : Entity} {declaration : NamedType}
  {reference type : TypeRef}

theorem mem_of_selectConstructor? {constructors : List Constructor} :
    ∀ constructor ∈ selectConstructor? constructors, constructor ∈ constructors := by
  refine List.foldlRecOn (motive := fun best => ∀ constructor ∈ best, constructor ∈ constructors)
    _ _ (by simp) ?_
  intro best ih next hnext
  have declared := (List.mem_filter.mp hnext).1
  cases best with
  | none => simpa using declared
  | some current =>
    dsimp only
    split
    · exact ih
    · simpa using declared

theorem exists_of_mem_parameters {member : Member}
    (h : member ∈ (ofDeclaration model declaration type).parameters) :
    ∃ constructor ∈ declaration.constructors, ∃ parameter ∈ constructor.parameters,
      member = ⟨parameter.name, parameter.type.substitute (declaration.bindingsFor type),
        .constructorParameter⟩ := by
  simp only [parameters, ofDeclaration] at h
  cases selected : selectConstructor? declaration.constructors with
  | none => simp [selected] at h
  | some constructor =>
    simp only [selected, Option.map_some, Option.getD_some] at h
    obtain ⟨parameter, hparameter, rfl⟩ := List.mem_map.mp h
    exact ⟨constructor, mem_of_selectConstructor? constructor selected, parameter, hparameter, rfl⟩

theorem wellFormed_ofDeclaration (model : Compilation) (declaration : NamedType) (type : TypeRef) :
    (ofDeclaration model declaration type).WellFormed where
  kind_parameters := by
    intro member hmember
    obtain ⟨_, -, _, -, rfl⟩ := exists_of_mem_parameters hmember
    rfl
  kind_settable := fun _ => kind_of_mem_collectProperties
  kind_readOnly := fun _ => kind_of_mem_collectProperties
  nodup_settable := nodup_collectProperties ..
  nodup_readOnly := nodup_collectProperties ..

theorem mem_of_findDeclaration? (h : findDeclaration? model reference = some declaration) :
    declaration ∈ model.types := by
  obtain found | ⟨-, found⟩ := Option.or_eq_some_iff.mp h
  · exact Compilation.mem_of_find? found
  · exact List.mem_of_find?_eq_some found

theorem resolve_eq_ok_iff :
    resolve model reference = .ok entity ↔ ∃ declaration,
      findDeclaration? model reference = some declaration ∧
        entity = ofDeclaration model declaration (referenceFor declaration reference) := by
  unfold resolve
  split
  next none => simp [none]
  next declaration found => simp [found, @eq_comm _ entity]

/-- The shape behind a reference is well-formed. -/
theorem wellFormed_of_resolve (h : resolve model reference = .ok entity) : entity.WellFormed := by
  obtain ⟨declaration, -, rfl⟩ := resolve_eq_ok_iff.mp h
  exact wellFormed_ofDeclaration ..

theorem isConstructorParameter_eq_false_iff {pascalName : String} :
    entity.isConstructorParameter pascalName = false ↔
      ∀ parameter ∈ entity.parameters, parameter.pascalName ≠ pascalName := by
  simp [isConstructorParameter]

theorem mem_settableForGeneration_iff {property : Member} :
    property ∈ entity.settableForGeneration ↔ property ∈ entity.settableProperties ∧
      ∀ parameter ∈ entity.parameters, parameter.pascalName ≠ property.pascalName := by
  simp [settableForGeneration, isConstructorParameter_eq_false_iff]

theorem mem_readOnlyForGeneration_iff {property : Member} :
    property ∈ entity.readOnlyForGeneration ↔ property ∈ entity.readOnlyProperties ∧
      ∀ parameter ∈ entity.parameters, parameter.pascalName ≠ property.pascalName := by
  simp [readOnlyForGeneration, isConstructorParameter_eq_false_iff]

end Entity

end FluentGen
