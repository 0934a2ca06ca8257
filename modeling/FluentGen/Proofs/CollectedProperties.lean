import FluentGen.Proofs.EntityShape
/-!
# Collected properties

The settable and the read-only properties of an entity are collected from all levels of the entity.
Each list has the first property of every name that qualifies for it, in the order in which these
come up, with the type that its level gives it.

## Main definitions
* `Property.Settable`, `Property.ReadOnlyBeside`: the properties that qualify.
* `declaredOn`: the properties of all levels, in order.
* `CollectsFirst`: whether a list has the first property of every name that qualifies.

## Main statements
* `Entity.collectsFirst_collectProperties`: this is how properties are collected.
* `Entity.collectsProperties_of_resolve`: both lists of an entity are collected so.
-/
namespace FluentGen

/-- Whether everyone can read and assign the property of an object. -/
def Property.Settable (property : Property) : Prop :=
  (property.isStatic = false ∧ property.isIndexer = false) ∧
    property.getter = some .publicAccess ∧ property.setter = some .publicAccess

/-- Whether everyone can read the property of an object, but not assign it. A computed one must have
the name of a parameter as a property. -/
def Property.ReadOnlyBeside (parameters : List Parameter) (property : Property) : Prop :=
  (property.isStatic = false ∧ property.isIndexer = false) ∧
    property.getter = some .publicAccess ∧ property.setter ≠ some .publicAccess ∧
    (property.isComputed = false ∨
      ∃ parameter ∈ parameters, property.name = pascalCase parameter.name)

instance : DecidablePred Property.Settable := fun _ => inferInstanceAs (Decidable (_ ∧ _))

instance (parameters : List Parameter) : DecidablePred (Property.ReadOnlyBeside parameters) :=
  fun _ => inferInstanceAs (Decidable (_ ∧ _))

/-- The properties that the levels of a class declare, level by level, each with its level. -/
def declaredOn (levels : List Level) : List (Level × Property) :=
  levels.flatMap fun level => level.declaration.properties.map fun property => (level, property)

section Collects

variable (levels : List Level) (qualifies : Property → Prop) [DecidablePred qualifies]

/-- The first property of a name that qualifies. -/
def firstQualifying? (name : String) : Option (Level × Property) :=
  (declaredOn levels).find? fun declared => qualifies declared.2 && declared.2.name == name

/-- The place at which it comes up. -/
def placeOf (name : String) : Nat :=
  (declaredOn levels).findIdx fun declared => qualifies declared.2 && declared.2.name == name

/-- Whether the members are the first properties of their names that qualify. -/
structure CollectsFirst (kind : MemberKind) (members : List Member) : Prop where
  apart : (members.map (·.name)).Nodup
  /-- Types are as the bindings of the level close them that declares the property. -/
  mem_iff : ∀ member, member ∈ members ↔ ∃ level property,
    firstQualifying? levels qualifies member.name = some (level, property) ∧
      member = ⟨property.name, property.type.substitute level.bindings, kind⟩
  ordered : members.Pairwise fun a b =>
    placeOf levels qualifies a.name < placeOf levels qualifies b.name
  /-- No name is lost. -/
  complete : ∀ level ∈ levels, ∀ property ∈ level.declaration.properties, qualifies property →
    ∃ member ∈ members, member.name = property.name

end Collects

namespace Entity

variable {levels : List Level} {kind : MemberKind} {keep : Property → Bool}
  {qualifies : Property → Prop} [DecidablePred qualifies]

/-- A declared property as a member. -/
def memberOn (kind : MemberKind) (declared : Level × Property) : Member :=
  ⟨declared.2.name, declared.2.type.substitute declared.1.bindings, kind⟩

theorem collectProperties_eq_map
    (keeps : ∀ property, (!property.isStatic && !property.isIndexer && keep property) = true ↔
      qualifies property) :
    collectProperties levels kind keep =
      (distinctBy (·.2.name) ((declaredOn levels).filter (qualifies ·.2))).map (memberOn kind) := by
  have accepts (property : Property) :
      (!property.isStatic && !property.isIndexer && keep property) = decide (qualifies property) :=
    Bool.eq_iff_iff.mpr ((keeps property).trans decide_eq_true_iff.symm)
  calc collectProperties levels kind keep
    _ = distinctBy Member.name
        (((declaredOn levels).filter (qualifies ·.2)).map (memberOn kind)) := by
      simp only [collectProperties, accepts, declaredOn, memberOn, List.filter_flatMap,
        List.map_flatMap, List.filter_map, List.map_map, Function.comp_def]
    _ = _ := distinctBy_map _ _

theorem collectsFirst_collectProperties
    (keeps : ∀ property, (!property.isStatic && !property.isIndexer && keep property) = true ↔
      qualifies property) :
    CollectsFirst levels qualifies kind (collectProperties levels kind keep) where
  apart := nodup_collectProperties levels kind keep
  mem_iff member := by
    rw [collectProperties_eq_map keeps, List.mem_map]
    simp only [mem_distinctBy_iff, List.find?_filter, Bool.decide_and, Bool.decide_eq_true]
    constructor
    · rintro ⟨⟨level, property⟩, found, rfl⟩
      exact ⟨level, property, found, rfl⟩
    · rintro ⟨level, property, found, rfl⟩
      exact ⟨(level, property), found, rfl⟩
  ordered := by
    rw [collectProperties_eq_map keeps, List.pairwise_map]
    exact pairwise_findIdx_distinctBy _ _
  complete level hlevel property hproperty accepted := by
    have declared : (level, property) ∈ (declaredOn levels).filter (qualifies ·.2) :=
      List.mem_filter.mpr ⟨List.mem_flatMap.mpr ⟨level, hlevel, List.mem_map_of_mem hproperty⟩,
        decide_eq_true accepted⟩
    obtain ⟨first, hfirst, name⟩ : ∃ first ∈ distinctBy (·.2.name)
        ((declaredOn levels).filter (qualifies ·.2)), first.2.name = property.name :=
      exists_mem_distinctBy declared
    rw [collectProperties_eq_map keeps]
    exact ⟨memberOn kind first, List.mem_map_of_mem hfirst, name⟩

/-- The parameters of the constructor to call, none if no constructor is visible. -/
def selectedParameters (declaration : NamedType) : List Parameter :=
  (selectConstructor? declaration.constructors).elim [] (·.parameters)

/-- The levels that the properties of an entity are collected from. -/
def levelsOf (model : Compilation) (declaration : NamedType) (reference : TypeRef) : List Level :=
  model.levels declaration (declaration.bindingsFor (referenceFor declaration reference))

/-- Whether the lists of properties of an entity are collected from its declaration and what this
inherits. -/
structure CollectsProperties (model : Compilation) (declaration : NamedType) (reference : TypeRef)
    (entity : Entity) : Prop where
  settable : CollectsFirst (levelsOf model declaration reference) Property.Settable
    .settableProperty entity.settableProperties
  readOnly : CollectsFirst (levelsOf model declaration reference)
    (Property.ReadOnlyBeside (selectedParameters declaration))
    .readOnlyProperty entity.readOnlyProperties

variable {model : Compilation} {declaration : NamedType} {reference type : TypeRef}
  {entity : Entity}

theorem map_pascalName_parameters :
    (ofDeclaration model declaration type).parameters.map (·.pascalName) =
      (selectedParameters declaration).map fun parameter => pascalCase parameter.name := by
  simp only [parameters, ofDeclaration, selectedParameters]
  cases selectConstructor? declaration.constructors with
  | none => rfl
  | some constructor => simp [Member.pascalName]

variable (model) in
theorem readOnly_iff {property : Property} :
    (!property.isStatic && !property.isIndexer && (property.isPubliclyReadOnly &&
      (!property.isComputed || ((ofDeclaration model declaration type).parameters.map
        (·.pascalName)).contains property.name))) = true ↔
      property.ReadOnlyBeside (selectedParameters declaration) := by
  rw [map_pascalName_parameters]
  simp [Property.ReadOnlyBeside, Property.isPubliclyReadOnly, and_assoc, @eq_comm _ property.name]

theorem collectsProperties_ofDeclaration :
    CollectsProperties model declaration reference
      (ofDeclaration model declaration (referenceFor declaration reference)) where
  settable := collectsFirst_collectProperties fun property => by
    simp [Property.Settable, Property.isPubliclySettable]
  readOnly := collectsFirst_collectProperties fun _ => readOnly_iff model

/-- The properties of an entity are collected from the declaration that its reference finds. -/
theorem collectsProperties_of_resolve (h : resolve model reference = .ok entity) :
    ∃ declaration, findDeclaration? model reference = some declaration ∧
      CollectsProperties model declaration reference entity := by
  obtain ⟨declaration, found, rfl⟩ := resolve_eq_ok_iff.mp h
  exact ⟨declaration, found, collectsProperties_ofDeclaration⟩

/-- A class with a base class over strings. It declares the name of one inherited property again and
has two computed ones, one of them named like the parameter of its constructor. -/
def receipt : Compilation where
  types :=
    let getter := some Accessibility.publicAccess
    [{ name := "Receipt", baseType := some (.generic "" "Document" .classType [.keyword "string"]),
       constructors := [{ accessibility := .publicAccess,
                          parameters := [{ name := "total", type := .keyword "int" }] }],
       properties :=
        [{ name := "Tax", type := .keyword "int", getter, isComputed := true },
          { name := "Total", type := .keyword "int", getter, isComputed := true },
          { name := "Note", type := .keyword "string", getter, setter := getter }] },
      { name := "Document", typeParameters := [{ name := "T" }],
        properties :=
          [{ name := "Count", type := .keyword "int", getter, setter := getter, isStatic := true },
            { name := "Author", type := .typeParameter "T", getter, setter := getter },
            { name := "Note", type := .typeParameter "T", getter, setter := getter },
            { name := "Id", type := .keyword "int", getter }] }]

/-- Of two properties of one name the first is collected, and of two computed ones that with the
name of the parameter. -/
theorem collectsProperties_of_resolve_receipt :
    let reference := TypeRef.named "" "Receipt" .classType
    ∃ entity, resolve receipt reference = .ok entity ∧
      entity.settableProperties.map (fun member => (member.name, member.type.display)) =
        [("Note", "string"), ("Author", "string")] ∧
      entity.readOnlyProperties.map (·.name) = ["Total", "Id"] ∧
      ∃ declaration, findDeclaration? receipt reference = some declaration ∧
        CollectsProperties receipt declaration reference entity :=
  ⟨_, rfl, by decide, by decide, collectsProperties_of_resolve rfl⟩

end Entity

end FluentGen
