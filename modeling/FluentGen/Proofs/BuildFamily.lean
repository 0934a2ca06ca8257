import FluentGen.Proofs.MemberMethods
/-!
# Building members beside hand-written ones

The constructor, the methods that build, the ways to make a builder and the hooks are left out where
the author declared them. For the method that builds only an instance method counts, and for building
in one step only a static one, although a class can have neither beside the generated method.

## Main definitions
* `GeneratedClass.RepeatsNothing`: no building member is declared a second time.
* `NamedType.FitsBuilding`: the author wrote no method of the other kind.

## Main statements
* `GeneratedClass.repeatsNothing_iff`: generated classes repeat such methods and nothing else.
-/
namespace FluentGen

namespace NamedType

variable {same : TypeRef → ParameterType → Prop} {builder : NamedType}

theorem hasSignature_nil_iff {name : String} : builder.HasSignature same ⟨name, []⟩ ↔
    ∃ method ∈ builder.methods, method.name = name ∧ method.parameters = [] := by
  simp only [HasSignature, List.forall₂_nil_right_iff]

theorem not_hasSignature_of_forall {signature : Signature}
    (h : ∀ method ∈ builder.methods, method.name ≠ signature.name) :
    ¬ builder.HasSignature same signature :=
  fun ⟨method, hmem, name, _⟩ => h method hmem name

/-- What the author wrote leaves room for the methods that build, given when a hand-written type is
the same as a generated one. -/
structure FitsBuilding (same : TypeRef → ParameterType → Prop) (entity : Entity)
    (config : Configuration) (builder : NamedType) : Prop where
  /-- Where an entity is built, no static method without parameters stands in the way. -/
  build : builder.hasBuild = false → entity.constructorParameters.isSome = true →
    ∀ method ∈ builder.methods, method.name = names.build → method.isStatic = true →
      method.parameters ≠ []
  /-- Where an entity is built in one step, no instance method stands in the way. -/
  buildDefault : config.builder.defaultCreator = true → builder.hasBuildDefault = false →
    ∀ parameters, entity.constructorParameters = some parameters →
      ∀ method ∈ builder.methods, method.name = names.buildDefault → method.isStatic = false →
        ¬ List.Forall₂ (fun written type => same written.type type) method.parameters
          (parameters.map fun parameter => .declared parameter.type)

end NamedType

namespace GeneratedClass

/-- The class declares no building member that the author wrote, given when a hand-written type is
the same as a generated one. -/
structure RepeatsNothing (same : TypeRef → ParameterType → Prop) (entity : Entity)
    (builder : NamedType) (c : GeneratedClass) : Prop where
  /-- No method, static or not, has the signature of a hand-written one. -/
  methods : ∀ member ∈ c.members, member.isForMember = false → ∀ signature,
    member.signature? entity c.config = some signature → ¬ builder.HasSignature same signature
  /-- The constructor has no hand-written counterpart. -/
  constructor : ∀ initial setup, .constructor initial setup ∈ c.members →
    ∀ written ∈ builder.constructors, written.parameters ≠ []
  /-- The property has the name of no hand-written member. -/
  creator : .creator ∈ c.members → (∀ method ∈ builder.methods, method.name ≠ names.creator) ∧
    (∀ field ∈ builder.fields, field.name ≠ names.creator) ∧
      ∀ property ∈ builder.properties, property.name ≠ names.creator
  /-- The conversion has no hand-written counterpart. -/
  implicitCast : .implicitCast ∈ c.members →
    ∀ method ∈ builder.methods, method.name ≠ names.implicitOperator

variable {same : TypeRef → ParameterType → Prop} {model : Compilation} {entity : Entity}
  {config : Configuration} {builder : NamedType} {plan : MemberPlan}

/-- Signatures of hand-written methods are left to the author as far as these leave room. -/
theorem Generates.not_hasSignature {member : GeneratedMember} {signature : Signature}
    (h : Generates entity config builder plan member)
    (fits : builder.FitsBuilding same entity config) (building : member.isForMember = false)
    (written : member.signature? entity config = some signature) :
    ¬ builder.HasSignature same signature := by
  cases h with
  | constructor | creator | implicitCast => cases written
  | setter | addTo => cases building
  | build absent some =>
    obtain rfl := Option.some.inj written
    rw [NamedType.hasSignature_nil_iff]
    rintro ⟨method, hmem, name, empty⟩
    cases static : method.isStatic with
    | true => exact fits.build absent (Option.isSome_of_eq_some some) method hmem name static empty
    | false =>
      exact Bool.eq_false_iff.mp absent
        (NamedType.hasBuild_iff.mpr ⟨method, hmem, name, static, empty⟩)
  | buildMany absent =>
    obtain rfl := Option.some.inj written
    exact NamedType.not_hasSignature_of_forall fun method hmem name =>
      Bool.eq_false_iff.mp absent (NamedType.hasBuildMany_iff.mpr ⟨method, hmem, name⟩)
  | buildDefault asked absent some =>
    obtain rfl := Option.some.inj written
    rintro ⟨method, hmem, name, types⟩
    cases static : method.isStatic with
    | true =>
      exact Bool.eq_false_iff.mp absent
        (NamedType.hasBuildDefault_iff.mpr ⟨method, hmem, name, static⟩)
    | false => exact fits.buildDefault asked absent _ some method hmem name static types
  | factory _ absent | setUnreachable _ _ absent =>
    obtain rfl := Option.some.inj written
    exact NamedType.not_hasSignature_of_forall (NamedType.declares_eq_false_iff.mp absent).1
  | preBuild _ absent =>
    obtain rfl := Option.some.inj written
    rw [NamedType.hasSignature_nil_iff, ← NamedType.hasPreBuild_iff]
    exact Bool.eq_false_iff.mp absent
  | postBuild _ absent =>
    obtain rfl := Option.some.inj written
    rintro ⟨method, hmem, name, types⟩
    exact Bool.eq_false_iff.mp absent
      (NamedType.hasPostBuild_iff.mpr ⟨method, hmem, name, types.length_eq⟩)

/-- Generated classes repeat a static method in the place of the one that builds or an instance
method in the place of building in one step, and nothing else. -/
theorem repeatsNothing_iff :
    (of model entity config builder).RepeatsNothing same entity builder ↔
      builder.FitsBuilding same entity config := by
  constructor
  · intro repeats
    constructor
    · intro absent some method hmem name _ empty
      obtain ⟨parameters, some⟩ := Option.isSome_iff_exists.mp some
      exact repeats.methods _ (mem_members_of_iff.mpr (.build absent some)) rfl _ rfl
        (NamedType.hasSignature_nil_iff.mpr ⟨method, hmem, name, empty⟩)
    · intro asked absent parameters some method hmem name _ types
      exact repeats.methods _ (mem_members_of_iff.mpr (.buildDefault asked absent some)) rfl _ rfl
        ⟨method, hmem, name, types⟩
  · intro fits
    constructor
    · intro member hmember building signature written
      exact (mem_members_of_iff.mp hmember).not_hasSignature fits building written
    · intro initial setup hmember written hwritten empty
      cases mem_members_of_iff.mp hmember with
      | constructor absent =>
        have present := NamedType.generatesConstructor_eq_false_iff.mpr ⟨written, hwritten, empty⟩
        cases absent.symm.trans present
    · intro hmember
      cases mem_members_of_iff.mp hmember with
      | creator _ absent => exact NamedType.declares_eq_false_iff.mp absent
    · intro hmember
      cases mem_members_of_iff.mp hmember with
      | implicitCast _ _ absent => exact (NamedType.declares_eq_false_iff.mp absent).1

/-- An instance method that builds in one step is declared a second time. -/
theorem not_repeatsNothing_buildDefault : ∃ entity,
    Entity.resolve (.ofParameters []) (.named "Shop" "Order" .classType) = .ok entity ∧
    ∀ same, ¬ (of (.ofParameters []) entity .default
      { name := "OrderBuilder", methods := [{ name := "BuildDefault" }] }).RepeatsNothing same entity
        { name := "OrderBuilder", methods := [{ name := "BuildDefault" }] } := by
  refine ⟨_, rfl, fun same repeats => ?_⟩
  refine repeats.methods (.buildDefault []) (mem_members_of_iff.mpr (.buildDefault rfl rfl rfl)) rfl
    _ rfl ?_
  exact ⟨_, List.mem_cons_self, rfl, .nil⟩

end GeneratedClass

end FluentGen
