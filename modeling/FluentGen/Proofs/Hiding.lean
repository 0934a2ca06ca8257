import FluentGen.Proofs.EntityShape
import FluentGen.Proofs.Members
import Mathlib.Tactic.MkIffOfInductiveProp
/-!
# Properties that are declared again

A class may declare a property that a base class declares already. Settable and read-only properties
are collected apart, so where the declarations differ in who can assign them both lists have the
property. When all members are those of the most derived declarations can be read off the
declarations of the inheritance chain.

## Main definitions
* `propertiesOf`, `mostDerived?`: the properties of a chain, and the first declaration of a name.
* `Entity.MostDerivedWins`: members are as the most derived declaration of their name has them.
* `Entity.RedeclaredAlike`: declarations of one name agree as far as it takes.

## Main statements
* `Entity.mem_collectProperties_iff`: the first accepted declaration of a name is collected.
* `Entity.mostDerivedWins_iff`: when the most derived declarations win.
-/
namespace FluentGen

/-! ## Declarations on a chain -/

/-- The properties of all levels but static ones and indexers, with the types that the bindings of
their level give them. -/
def propertiesOf (levels : List Level) : List Property :=
  levels.flatMap fun level =>
    (level.declaration.properties.filter fun property =>
      !property.isStatic && !property.isIndexer).map fun property =>
        { property with type := property.type.substitute level.bindings }

/-- The most derived declaration of a name. -/
def mostDerived? (properties : List Property) (name : String) : Option Property :=
  properties.find? (·.name == name)

theorem Property.not_isPubliclyReadOnly {property : Property} (h : property.isPubliclySettable) :
    ¬ property.isPubliclyReadOnly := by
  simp only [isPubliclySettable, isPubliclyReadOnly, Bool.and_eq_true, beq_iff_eq,
    bne_iff_ne] at h ⊢
  exact fun readOnly => readOnly.2 h.2

section MostDerived

variable {properties : List Property} {property first : Property} {name : String}
  {keep : Property → Bool}

theorem mem_of_mostDerived? (h : mostDerived? properties name = some property) :
    property ∈ properties :=
  List.mem_of_find?_eq_some h

theorem name_of_mostDerived? (h : mostDerived? properties name = some property) :
    property.name = name := by
  simpa using List.find?_some h

theorem exists_mostDerived? (h : property ∈ properties) :
    ∃ first, mostDerived? properties property.name = some first := by
  refine Option.isSome_iff_exists.mp (List.find?_isSome.mpr ⟨property, h, ?_⟩)
  exact beq_self_eq_true property.name

/-- Behind an accepted declaration stands the most derived one of the same name. -/
theorem exists_mostDerived?_of_filter
    (h : mostDerived? (properties.filter keep) name = some property) :
    (property ∈ properties ∧ keep property = true) ∧ property.name = name ∧
      ∃ first ∈ properties, first.name = name ∧ mostDerived? properties name = some first := by
  have accepted := List.mem_filter.mp (mem_of_mostDerived? h)
  obtain rfl := name_of_mostDerived? h
  obtain ⟨first, hfirst⟩ := exists_mostDerived? accepted.1
  exact ⟨accepted, rfl, first, mem_of_mostDerived? hfirst, name_of_mostDerived? hfirst, hfirst⟩

/-- The most derived declaration is the most derived one that is accepted if it is accepted. -/
theorem mostDerived?_filter (h : mostDerived? properties name = some first)
    (accepted : keep first = true) : mostDerived? (properties.filter keep) name = some first := by
  obtain ⟨hname, before, after, rfl, others⟩ := List.find?_eq_some_iff_append.mp h
  have none : mostDerived? (before.filter keep) name = none := by
    refine List.find?_eq_none.mpr fun other hother => ?_
    simpa using others other (List.mem_of_mem_filter hother)
  rw [mostDerived?] at none ⊢
  rw [List.filter_append, List.filter_cons_of_pos accepted, List.find?_append, none,
    Option.none_or, List.find?_cons, hname]

end MostDerived

namespace Entity

variable {model : Compilation} {levels : List Level} {kind : MemberKind} {keep : Property → Bool}
  {member : Member} {entity : Entity} {reference : TypeRef}

/-- A property as a member. -/
def memberOf (kind : MemberKind) (property : Property) : Member :=
  ⟨property.name, property.type, kind⟩

theorem collectProperties_eq_distinctBy (ignored : ∀ property type,
    keep { property with type } = keep property) :
    collectProperties levels kind keep =
      distinctBy Member.name (((propertiesOf levels).filter keep).map (memberOf kind)) := by
  simp only [collectProperties, propertiesOf, List.filter_flatMap, List.map_flatMap,
    List.filter_map, List.map_map, List.filter_filter, Function.comp_def, ignored, Bool.and_comm]
  rfl

/-- A member is collected if and only if it is the most derived accepted declaration of its name. -/
theorem mem_collectProperties_iff (ignored : ∀ property type,
    keep { property with type } = keep property) :
    member ∈ collectProperties levels kind keep ↔
      ∃ property, mostDerived? ((propertiesOf levels).filter keep) member.name = some property ∧
        member = memberOf kind property := by
  rw [collectProperties_eq_distinctBy ignored, mem_distinctBy_iff, List.find?_map,
    Option.map_eq_some_iff]
  simp [mostDerived?, memberOf, Function.comp_def, @eq_comm _ member]

/-- The properties that a reference to an entity declares or inherits. -/
def propertiesBehind (model : Compilation) (reference : TypeRef) : List Property :=
  match findDeclaration? model reference with
  | none => []
  | some declaration =>
    propertiesOf (model.levels declaration
      (declaration.bindingsFor (referenceFor declaration reference)))

/-- Whether a declaration counts as a read-only property of the entity. -/
def keepsReadOnly (entity : Entity) (property : Property) : Bool :=
  property.isPubliclyReadOnly &&
    (!property.isComputed || (entity.parameters.map (·.pascalName)).contains property.name)

/-- Whether members are as the most derived declaration of their name has them. -/
structure MostDerivedWins (model : Compilation) (properties : List Property) (entity : Entity) :
    Prop where
  /-- No property is settable and read-only. -/
  apart : ∀ settable ∈ entity.settableProperties, ∀ readOnly ∈ entity.readOnlyProperties,
    settable.name ≠ readOnly.name
  settable : ∀ member ∈ entity.settableProperties,
    ∃ property ∈ mostDerived? properties member.name,
      property.isPubliclySettable ∧ property.type = member.type
  readOnly : ∀ member ∈ entity.readOnlyProperties,
    ∃ property ∈ mostDerived? properties member.name,
      property.isPubliclyReadOnly ∧ property.type = member.type
  /-- No method that builds assigns a property that its most derived declaration keeps it from. -/
  assigned : ∀ config builder method,
    .build method ∈ (GeneratedClass.of model entity config builder).members →
      ∀ initializer ∈ method.initializers,
        ∃ property ∈ mostDerived? properties initializer.property, property.isPubliclySettable

/-- Whether the most derived declaration of every name is settable if any is, and has what the most
derived one that counts as read-only has if any does. -/
def RedeclaredAlike (properties : List Property) (entity : Entity) : Prop :=
  ∀ first ∈ properties, mostDerived? properties first.name = some first →
    (∀ other ∈ properties, other.name = first.name → other.isPubliclySettable →
      first.isPubliclySettable) ∧
    ∀ kept ∈ mostDerived? (properties.filter entity.keepsReadOnly) first.name,
      first.isPubliclyReadOnly ∧ first.type = kept.type

instance (properties : List Property) (entity : Entity) :
    Decidable (entity.RedeclaredAlike properties) :=
  inferInstanceAs (Decidable (∀ first ∈ properties, _ → _))

section Resolved

variable (h : resolve model reference = .ok entity)

include h

theorem mem_settableProperties_iff :
    member ∈ entity.settableProperties ↔ ∃ property,
      mostDerived? ((propertiesBehind model reference).filter (·.isPubliclySettable)) member.name =
        some property ∧ member = memberOf .settableProperty property := by
  obtain ⟨declaration, found, rfl⟩ := resolve_eq_ok_iff.mp h
  simp only [propertiesBehind, found]
  exact mem_collectProperties_iff fun _ _ => rfl

theorem mem_readOnlyProperties_iff :
    member ∈ entity.readOnlyProperties ↔ ∃ property,
      mostDerived? ((propertiesBehind model reference).filter entity.keepsReadOnly) member.name =
        some property ∧ member = memberOf .readOnlyProperty property := by
  obtain ⟨declaration, found, rfl⟩ := resolve_eq_ok_iff.mp h
  simp only [propertiesBehind, found]
  exact mem_collectProperties_iff fun _ _ => rfl

end Resolved

theorem mem_settableProperties_of_initializer {config : Configuration} {builder : NamedType}
    {method : BuildMethod} {initializer : Initializer}
    (h : .build method ∈ (GeneratedClass.of model entity config builder).members)
    (h' : initializer ∈ method.initializers) :
    ∃ member ∈ entity.settableProperties, initializer.property = member.name := by
  cases GeneratedClass.mem_members_of_iff.mp h with
  | build absent found =>
    obtain ⟨member, hmember, rfl⟩ := List.mem_map.mp h'
    exact ⟨member, List.mem_of_mem_filter (List.mem_of_mem_filter hmember), rfl⟩

section Redeclared

variable (h : resolve model reference = .ok entity)

include h

theorem redeclaredAlike_of_mostDerivedWins
    (wins : entity.MostDerivedWins model (propertiesBehind model reference)) :
    entity.RedeclaredAlike (propertiesBehind model reference) := by
  intro first hfirst derived
  constructor
  · intro other hother name settable
    obtain ⟨collected, hcollected⟩ := exists_mostDerived? (List.mem_filter.mpr ⟨hother, settable⟩)
    rw [name] at hcollected
    have member := (mem_settableProperties_iff h).mpr
      ⟨collected, by rwa [memberOf, name_of_mostDerived? hcollected], rfl⟩
    obtain ⟨property, hproperty, accepted, -⟩ := wins.settable _ member
    rw [memberOf, name_of_mostDerived? hcollected, derived] at hproperty
    cases hproperty
    exact accepted
  · intro kept hkept
    have member := (mem_readOnlyProperties_iff h).mpr
      ⟨kept, by rwa [memberOf, name_of_mostDerived? hkept], rfl⟩
    obtain ⟨property, hproperty, accepted, type⟩ := wins.readOnly _ member
    rw [memberOf, name_of_mostDerived? hkept, derived] at hproperty
    cases hproperty
    exact ⟨accepted, type⟩

variable (alike : entity.RedeclaredAlike (propertiesBehind model reference))

include alike

theorem mostDerived?_of_mem_settableProperties (hmember : member ∈ entity.settableProperties) :
    ∃ property ∈ mostDerived? (propertiesBehind model reference) member.name,
      property.isPubliclySettable ∧ property.type = member.type := by
  obtain ⟨collected, hcollected, rfl⟩ := (mem_settableProperties_iff h).mp hmember
  obtain ⟨⟨declared, accepted⟩, name, first, hfirst, name', derived⟩ :=
    exists_mostDerived?_of_filter hcollected
  have settable := (alike first hfirst (name' ▸ derived)).1 collected declared
    (name.trans name'.symm) accepted
  have same := mostDerived?_filter derived settable
  rw [hcollected, Option.some.injEq] at same
  exact ⟨first, derived, settable, same ▸ rfl⟩

theorem mostDerived?_of_mem_readOnlyProperties (hmember : member ∈ entity.readOnlyProperties) :
    ∃ property ∈ mostDerived? (propertiesBehind model reference) member.name,
      property.isPubliclyReadOnly ∧ property.type = member.type := by
  obtain ⟨kept, hkept, rfl⟩ := (mem_readOnlyProperties_iff h).mp hmember
  obtain ⟨-, -, first, hfirst, name, derived⟩ := exists_mostDerived?_of_filter hkept
  exact ⟨first, derived, (alike first hfirst (name ▸ derived)).2 kept (name ▸ hkept)⟩

theorem mostDerivedWins_of_redeclaredAlike :
    entity.MostDerivedWins model (propertiesBehind model reference) where
  apart a ha b hb name := by
    obtain ⟨property, hproperty, settable, -⟩ := mostDerived?_of_mem_settableProperties h alike ha
    obtain ⟨other, hother, readOnly, -⟩ := mostDerived?_of_mem_readOnlyProperties h alike hb
    rw [name, Option.mem_def.mp hother] at hproperty
    cases hproperty
    exact Property.not_isPubliclyReadOnly settable readOnly
  settable _ := mostDerived?_of_mem_settableProperties h alike
  readOnly _ := mostDerived?_of_mem_readOnlyProperties h alike
  assigned config builder method hmethod initializer hinitializer := by
    obtain ⟨member, hmember, name⟩ := mem_settableProperties_of_initializer hmethod hinitializer
    obtain ⟨property, hproperty, settable, -⟩ :=
      mostDerived?_of_mem_settableProperties h alike hmember
    exact ⟨property, name ▸ hproperty, settable⟩

end Redeclared

/-- The most derived declarations win exactly where declarations of one name agree: if one is
settable the most derived one is, and if one counts as read-only the most derived one is read-only,
of the type of the most derived one that counts. -/
theorem mostDerivedWins_iff (h : resolve model reference = .ok entity) :
    entity.MostDerivedWins model (propertiesBehind model reference) ↔
      entity.RedeclaredAlike (propertiesBehind model reference) :=
  ⟨redeclaredAlike_of_mostDerivedWins h, mostDerivedWins_of_redeclaredAlike h⟩

/-- A class `Product` with the property `Name` and a base class with another one. -/
def redeclaring (derived inherited : TypeRef → Property) : Compilation where
  types :=
    [{ name := "Product", qualifier := "Shop", baseType := some (.named "Shop" "Item" .classType),
       constructors := [{ accessibility := .publicAccess }],
       properties := [derived (.keyword "string")] },
      { name := "Item", qualifier := "Shop", properties := [inherited (.keyword "object")] }]

/-- A public property that everyone can read, with the given setter. -/
def publicName (setter : Option Accessibility) (type : TypeRef) : Property :=
  { name := "Name", type, getter := some .publicAccess, setter }

/-- A settable property hides another one of another type. -/
theorem mostDerivedWins_iff_settable :
    let model := redeclaring (publicName (some .publicAccess)) (publicName (some .publicAccess))
    let reference := TypeRef.named "Shop" "Product" .classType
    ∃ entity, resolve model reference = .ok entity ∧
      entity.settableProperties = [⟨"Name", .keyword "string", .settableProperty⟩] ∧
      entity.MostDerivedWins model (propertiesBehind model reference) :=
  ⟨_, rfl, by decide, (mostDerivedWins_iff rfl).mpr (by decide)⟩

/-- A read-only property does not hide a settable one: it is assigned all the same. -/
theorem not_mostDerivedWins_readOnly :
    let model := redeclaring (publicName none) (publicName (some .publicAccess))
    let reference := TypeRef.named "Shop" "Product" .classType
    ∃ entity, resolve model reference = .ok entity ∧
      entity.settableProperties = [⟨"Name", .keyword "object", .settableProperty⟩] ∧
      entity.readOnlyProperties = [⟨"Name", .keyword "string", .readOnlyProperty⟩] ∧
      ¬ entity.MostDerivedWins model (propertiesBehind model reference) :=
  ⟨_, rfl, by decide, by decide, fun wins => absurd wins.apart (by decide)⟩

end Entity

end FluentGen
