import FluentGen.Proofs.Building
import FluentGen.Proofs.Capitals
import FluentGen.Proofs.CollectedProperties
import FluentGen.Proofs.TypeParameters
/-!
# Computed properties

A computed property has nothing to assign. It is collected among the read-only properties only if a
constructor parameter has its name, and then the parameter stands for it. So what a builder generates
for read-only properties is the same as if computed ones were not collected at all.

## Main definitions
* `Property.StoredReadOnly`: the read-only properties that are not computed.
* `Entity.IsCollectedFrom`: the declaration that a read-only property is collected from.
* `Entity.LeavesOutComputed`: nothing is generated from a computed declaration.

## Main statements
* `Entity.mem_readOnlyForGeneration_shape_iff`: what is generated are the first stored properties of
  their names that no parameter stands for.
* `Entity.leavesOutComputed_of_resolve`: nothing is generated from a computed declaration.
-/
namespace FluentGen

/-- Whether everyone can read the property of an object, but not assign it, and it is not computed. -/
def Property.StoredReadOnly (property : Property) : Prop :=
  (property.isStatic = false ∧ property.isIndexer = false) ∧
    property.getter = some .publicAccess ∧ property.setter ≠ some .publicAccess ∧
      property.isComputed = false

instance : DecidablePred Property.StoredReadOnly := fun _ => inferInstanceAs (Decidable (_ ∧ _))

/-- A name that is in pascal case stays as it is, so a computed property that counts beside a
parameter has the name of the parameter in pascal case, too. -/
theorem Property.readOnlyBeside_iff_of_free {parameters : List Parameter} {property : Property}
    (free : ∀ parameter ∈ parameters, pascalCase parameter.name ≠ pascalCase property.name) :
    property.ReadOnlyBeside parameters ↔ property.StoredReadOnly := by
  refine and_congr_right fun _ => and_congr_right fun _ => and_congr_right fun _ => or_iff_left ?_
  rintro ⟨parameter, hparameter, name⟩
  have same := congrArg pascalCase name
  rw [pascalCase_pascalCase] at same
  exact free parameter hparameter same.symm

/-- Only what qualifies of a name matters to the first property of this name. -/
theorem firstQualifying?_congr {levels : List Level} {qualifies qualifies' : Property → Prop}
    [DecidablePred qualifies] [DecidablePred qualifies'] {name : String}
    (same : ∀ property, property.name = name → (qualifies property ↔ qualifies' property)) :
    firstQualifying? levels qualifies name = firstQualifying? levels qualifies' name := by
  refine congrArg (List.find? · _) (funext fun declared => ?_)
  by_cases called : declared.2.name = name
  · rw [decide_eq_decide.mpr (same declared.2 called)]
  · rw [beq_eq_false_iff_ne.mpr called, Bool.and_false, Bool.and_false]

namespace Entity

section Collected

variable (model : Compilation) (declaration : NamedType) (reference : TypeRef)

/-- Whether a read-only property of an entity is collected from a declared property, which is the
first one of its name that counts as read-only. -/
def IsCollectedFrom (member : Member) (declared : Level × Property) : Prop :=
  firstQualifying? (levelsOf model declaration reference)
      (Property.ReadOnlyBeside (selectedParameters declaration)) member.name = some declared ∧
    member = memberOn .readOnlyProperty declared

/-- Whether a read-only property of an entity is collected from a declaration that is not computed. -/
def IsStored (member : Member) : Prop :=
  ∃ declared, IsCollectedFrom model declaration reference member declared ∧
    declared.2.isComputed = false

/-- Whether nothing is generated from computed properties. -/
structure LeavesOutComputed (entity : Entity) (config : Configuration) (builder : NamedType) :
    Prop where
  /-- The first property that counts is collected, be it computed or not. -/
  collected : ∀ member, member ∈ entity.readOnlyProperties ↔
    ∃ declared, IsCollectedFrom model declaration reference member declared
  passedOver : ∀ member declared, IsCollectedFrom model declaration reference member declared →
    declared.2.isComputed = true → member ∉ entity.readOnlyForGeneration
  generated : ∀ member ∈ entity.readOnlyForGeneration, IsStored model declaration reference member
  /-- Properties are generated as if computed ones were not collected. -/
  generated_iff : ∀ member, member ∈ entity.readOnlyForGeneration ↔
    (∀ parameter ∈ entity.parameters, parameter.pascalName ≠ member.pascalName) ∧
      ∃ declared, firstQualifying? (levelsOf model declaration reference) Property.StoredReadOnly
          member.name = some declared ∧ member = memberOn .readOnlyProperty declared
  tracked : ∀ tracked ∈ (planMembers model entity config builder).tracked,
    tracked.member.kind = .readOnlyProperty → IsStored model declaration reference tracked.member
  skipped : ∀ skipped ∈ (planMembers model entity config builder).skipped,
    skipped.member.kind = .readOnlyProperty → IsStored model declaration reference skipped.member
  /-- What building assigns by reflection. -/
  assigned : ∀ method, .build method ∈ (GeneratedClass.of model entity config builder).members →
    ∀ tracked ∈ method.unreachable, IsStored model declaration reference tracked.member

end Collected

variable {model : Compilation} {declaration : NamedType} {reference : TypeRef} {entity : Entity}
  {member : Member}

theorem mem_readOnlyProperties_shape_iff :
    member ∈ (shape model declaration reference).readOnlyProperties ↔
      ∃ declared, IsCollectedFrom model declaration reference member declared := by
  refine (collectsProperties_ofDeclaration.readOnly.mem_iff member).trans ?_
  exact ⟨fun ⟨level, property, found, same⟩ => ⟨(level, property), found, same⟩,
    fun ⟨(level, property), found, same⟩ => ⟨level, property, found, same⟩⟩

/-- The constructor parameters of an entity are those of the declaration under their own names. -/
theorem forall_pascalName_parameters_iff {P : String → Prop} :
    (∀ parameter ∈ (shape model declaration reference).parameters, P parameter.pascalName) ↔
      ∀ parameter ∈ selectedParameters declaration, P (pascalCase parameter.name) := by
  rw [← List.forall_mem_map (P := P), map_pascalName_parameters, List.forall_mem_map]

/-- What no parameter stands for is collected as if computed properties did not count. -/
theorem isCollectedFrom_iff_of_free {declared : Level × Property}
    (free : ∀ parameter ∈ selectedParameters declaration,
      pascalCase parameter.name ≠ member.pascalName) :
    IsCollectedFrom model declaration reference member declared ↔
      firstQualifying? (levelsOf model declaration reference) Property.StoredReadOnly member.name =
        some declared ∧ member = memberOn .readOnlyProperty declared := by
  have first : firstQualifying? (levelsOf model declaration reference)
      (Property.ReadOnlyBeside (selectedParameters declaration)) member.name =
        firstQualifying? (levelsOf model declaration reference) Property.StoredReadOnly
          member.name := by
    refine firstQualifying?_congr fun property name => ?_
    rw [Member.pascalName, ← name] at free
    exact Property.readOnlyBeside_iff_of_free free
  rw [IsCollectedFrom, first]

theorem mem_readOnlyForGeneration_shape_iff :
    member ∈ (shape model declaration reference).readOnlyForGeneration ↔
      (∀ parameter ∈ (shape model declaration reference).parameters,
        parameter.pascalName ≠ member.pascalName) ∧
      ∃ declared, firstQualifying? (levelsOf model declaration reference) Property.StoredReadOnly
        member.name = some declared ∧ member = memberOn .readOnlyProperty declared := by
  rw [mem_readOnlyForGeneration_iff, and_comm, mem_readOnlyProperties_shape_iff,
    forall_pascalName_parameters_iff (P := (· ≠ member.pascalName))]
  exact and_congr_right fun free => exists_congr fun declared => isCollectedFrom_iff_of_free free

theorem isStored_of_mem_readOnlyForGeneration
    (h : member ∈ (shape model declaration reference).readOnlyForGeneration) :
    IsStored model declaration reference member := by
  obtain ⟨free, declared, found, same⟩ := mem_readOnlyForGeneration_shape_iff.mp h
  rw [forall_pascalName_parameters_iff (P := (· ≠ member.pascalName))] at free
  have stored := List.find?_some found
  simp only [Bool.and_eq_true, decide_eq_true_eq] at stored
  exact ⟨declared, (isCollectedFrom_iff_of_free free).mpr ⟨found, same⟩, stored.1.2.2.2⟩

/-- A computed property that is collected has the name of a parameter. -/
theorem notMem_readOnlyForGeneration_of_isComputed {declared : Level × Property}
    (h : IsCollectedFrom model declaration reference member declared)
    (computed : declared.2.isComputed = true) :
    member ∉ (shape model declaration reference).readOnlyForGeneration := by
  intro generated
  obtain ⟨stored, collected, plain⟩ := isStored_of_mem_readOnlyForGeneration generated
  obtain rfl := Option.some.inj (h.1.symm.trans collected.1)
  rw [plain] at computed
  cases computed

/-- Nothing is generated from a computed property. -/
theorem leavesOutComputed_of_resolve (h : resolve model reference = .ok entity)
    (config : Configuration) (builder : NamedType) :
    ∃ declaration, findDeclaration? model reference = some declaration ∧
      LeavesOutComputed model declaration reference entity config builder := by
  have wellFormed := wellFormed_of_resolve h
  obtain ⟨declaration, found, rfl⟩ := resolve_eq_ok_iff.mp h
  refine ⟨declaration, found, ?_⟩
  constructor
  case collected => exact fun member => mem_readOnlyProperties_shape_iff
  case passedOver =>
    intro member declared collected computed
    exact notMem_readOnlyForGeneration_of_isComputed collected computed
  case generated => exact fun member => isStored_of_mem_readOnlyForGeneration
  case generated_iff => exact fun member => mem_readOnlyForGeneration_shape_iff
  case tracked =>
    intro tracked hmem kind
    exact isStored_of_mem_readOnlyForGeneration
      (mem_readOnlyForGeneration_of_mem_candidates wellFormed (mem_tracked_iff.mp hmem).1 kind)
  case skipped =>
    intro skipped hmem kind
    exact isStored_of_mem_readOnlyForGeneration
      (mem_readOnlyForGeneration_of_mem_candidates wellFormed (mem_skipped_iff.mp hmem).1 kind)
  case assigned =>
    intro method hmethod tracked htracked
    cases GeneratedClass.mem_members_of_iff.mp hmethod with
    | build =>
      exact isStored_of_mem_readOnlyForGeneration
        ((MemberPlan.mem_unreachable_iff wellFormed).mp htracked).2

/-- Of two computed properties, the one with the name of the parameter is collected and none is
generated. -/
theorem leavesOutComputed_of_resolve_receipt :
    let reference := TypeRef.named "" "Receipt" .classType
    let config : Configuration :=
      { Configuration.default with
        builder := { Configuration.default.builder with unreachableSetters := true } }
    let builder : NamedType := { name := "ReceiptBuilder" }
    ∃ entity, resolve receipt reference = .ok entity ∧
      entity.readOnlyProperties.map (·.name) = ["Total", "Id"] ∧
      entity.readOnlyForGeneration.map (·.name) = ["Id"] ∧
      (planMembers receipt entity config builder).unreachable.map (·.member.name) = ["Id"] ∧
      ∃ declaration, findDeclaration? receipt reference = some declaration ∧
        LeavesOutComputed receipt declaration reference entity config builder :=
  ⟨_, rfl, by decide, by decide, by decide +kernel, leavesOutComputed_of_resolve rfl _ _⟩

end Entity

end FluentGen
