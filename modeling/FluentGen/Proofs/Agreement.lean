import FluentGen.Report
import Mathlib.Data.List.Forall2
/-!
# What generation reads of a snapshot

A unit of work asks the snapshot for declarations, by key or by name, and reads all of them but
their attributes; attributes count only where they are applied to the assembly or to the builder
class itself. So snapshots that answer alike make the same of every unit.

## Main definitions
* `NamedType.Alike`, `Level.Alike`: equality up to attributes.
* `Compilation.Agrees`: two snapshots answer alike.
* `GenerationUnit.classified`: the types whose interfaces are looked up for a unit.

## Main statements
* `Compilation.Agrees.classify_eq`, `Compilation.Agrees.resolve_eq`: types are classified and
  entities are seen in the same way.
* `Compilation.Agrees.run_eq_of_interfaces`: the same comes of a unit if the same interfaces are found
  for it.
* `Compilation.Agrees.run_eq`: they are if both snapshots have the same bound on walks.
-/
namespace FluentGen

/-- Whether two declarations differ at most in their attributes. -/
def NamedType.Alike (a b : NamedType) : Prop :=
  ∃ attributes, b = { a with attributes }

theorem NamedType.Alike.refl (a : NamedType) : a.Alike a :=
  ⟨a.attributes, rfl⟩

theorem NamedType.Alike.rel_of_eq {a b : Option NamedType} (h : a = b) :
    Option.Rel NamedType.Alike a b := by
  subst h
  cases a with
  | none => exact .none
  | some type => exact .some (.refl type)

theorem NamedType.Alike.isConstructible_eq {a b : NamedType} (h : a.Alike b) :
    a.isConstructible = b.isConstructible := by
  obtain ⟨attributes, rfl⟩ := h
  rfl

/-- Whether two levels differ at most in the attributes of their declarations. -/
def Level.Alike (a b : Level) : Prop :=
  a.declaration.Alike b.declaration ∧ a.bindings = b.bindings

/-- Whether two snapshots answer alike to what generation asks of them. -/
structure Compilation.Agrees (model model' : Compilation) : Prop where
  nullableEnabled : model.nullableEnabled = model'.nullableEnabled
  assemblyAttributes : model.assemblyAttributes = model'.assemblyAttributes
  /-- The number of types bounds the walks along base classes. -/
  length_types : model.types.length = model'.types.length
  rel_find? : ∀ key, Option.Rel NamedType.Alike (model.find? key) (model'.find? key)
  rel_findDeclaration? : ∀ reference, Option.Rel NamedType.Alike
    (Entity.findDeclaration? model reference) (Entity.findDeclaration? model' reference)

/-- The types whose interfaces are looked up to generate a unit: those of the candidates, but for
strings. -/
def GenerationUnit.classified (model : Compilation) (unit : GenerationUnit) : List TypeRef :=
  match unit.shadowedBy, unit.application.applied.entity?.map (Entity.resolve model),
      Configuration.forUnit model unit.builder unit.application.applied with
  | none, some (.ok entity), .ok config =>
    if entity.isAbstract then []
    else ((entity.candidates config.builder.unreachableSetters).map (·.type.bare)).filter (!·.isString)
  | _, _, _ => []

/-! ## Levels of properties -/

/-- Properties are collected from levels whatever the attributes of their declarations. -/
theorem Entity.collectProperties_eq {levels levels' : List Level}
    (h : List.Forall₂ Level.Alike levels levels') (kind : MemberKind) (keep : Property → Bool) :
    collectProperties levels kind keep = collectProperties levels' kind keep := by
  unfold collectProperties
  congr 1
  induction h with
  | nil => rfl
  | cons alike _ ih =>
    obtain ⟨⟨attributes, declared⟩, bound⟩ := alike
    simp only [List.flatMap_cons, ih, declared, bound]

namespace Compilation.Agrees

variable {model model' : Compilation} (agrees : model.Agrees model')

include agrees

/-! ## Walks -/

theorem rel_lookup? (reference : TypeRef) :
    Option.Rel NamedType.Alike (model.lookup? reference) (model'.lookup? reference) := by
  have found := agrees.rel_find? reference.key
  unfold lookup? resolve?
  generalize model.find? reference.key = here, model'.find? reference.key = there at found ⊢
  cases found with
  | some alike => exact .some alike
  | none =>
    simp only [Option.none_or]
    cases Framework.find? reference.key with
    | some definition => exact .some (.refl definition)
    | none => exact .none

theorem supertypes_eq : model.supertypes = model'.supertypes := by
  funext reference
  have found := agrees.rel_lookup? reference
  unfold supertypes
  generalize model.lookup? reference = here, model'.lookup? reference = there at found ⊢
  cases found with
  | some alike =>
    obtain ⟨attributes, rfl⟩ := alike
    rfl
  | none => rfl

theorem interfacesFrom_eq (bound : Nat) (seen : List String) (pending : List TypeRef) :
    model.interfacesFrom bound seen pending = model'.interfacesFrom bound seen pending := by
  induction bound generalizing seen pending with
  | zero => rfl
  | succ bound ih =>
    cases pending with
    | nil => rfl
    | cons current pending => simp only [interfacesFrom, agrees.supertypes_eq, ih]

theorem interfaces_eq (limit : model.walkLimit = model'.walkLimit) :
    model.interfaces = model'.interfaces := by
  funext reference
  rw [interfaces, interfaces, agrees.interfacesFrom_eq, limit]

theorem rel_baseLevel? {level level' : Level} (alike : level.Alike level') :
    Option.Rel Level.Alike (model.baseLevel? level) (model'.baseLevel? level') := by
  obtain ⟨⟨attributes, declared⟩, bound⟩ := alike
  unfold baseLevel?
  rw [declared, ← bound]
  cases level.declaration.baseType with
  | none => exact .none
  | some base =>
    have found := agrees.rel_find? (base.substitute level.bindings).key
    simp only [Option.bind_some, resolve?]
    generalize model.find? _ = here, model'.find? _ = there at found ⊢
    cases found with
    | none => exact .none
    | some alike =>
      refine .some ⟨alike, ?_⟩
      obtain ⟨attributes, rfl⟩ := alike
      rfl

theorem forall₂_levelsFrom (bound : Nat) (visited : List String) {level level' : Level}
    (alike : level.Alike level') :
    List.Forall₂ Level.Alike (model.levelsFrom bound visited level)
      (model'.levelsFrom bound visited level') := by
  induction bound generalizing visited level level' with
  | zero => exact .nil
  | succ bound ih =>
    have key : level'.declaration.key = level.declaration.key := by
      obtain ⟨⟨attributes, declared⟩, -⟩ := alike
      rw [declared]
      rfl
    have base := agrees.rel_baseLevel? alike
    simp only [levelsFrom, key]
    split
    · exact .nil
    · generalize model.baseLevel? level = here, model'.baseLevel? level' = there at base ⊢
      cases base with
      | some base => exact .cons alike (ih _ base)
      | none => exact .cons alike .nil

theorem forall₂_levels {start start' : NamedType} (alike : start.Alike start')
    (bindings : Bindings) :
    List.Forall₂ Level.Alike (model.levels start bindings) (model'.levels start' bindings) := by
  rw [levels, levels, agrees.length_types]
  exact agrees.forall₂_levelsFrom _ _ ⟨alike, rfl⟩

theorem inheritsAddFrom_eq (bound : Nat) (visited : List String) {type type' : NamedType}
    (alike : type.Alike type') :
    model.inheritsAddFrom bound visited type = model'.inheritsAddFrom bound visited type' := by
  induction bound generalizing visited type type' with
  | zero => rfl
  | succ bound ih =>
    obtain ⟨attributes, rfl⟩ := alike
    have base : Option.Rel NamedType.Alike (type.baseType.bind model.lookup?)
        (type.baseType.bind model'.lookup?) := by
      cases type.baseType with
      | none => exact .none
      | some base => exact agrees.rel_lookup? base
    simp only [inheritsAddFrom]
    generalize type.baseType.bind model.lookup? = here,
      type.baseType.bind model'.lookup? = there at base ⊢
    cases base with
    | none => rfl
    | some alike =>
      simp only [ih _ alike]
      rfl

theorem inheritsAdd_eq {type type' : NamedType} (alike : type.Alike type') :
    model.inheritsAdd type = model'.inheritsAdd type' := by
  rw [inheritsAdd, inheritsAdd, agrees.length_types, agrees.inheritsAddFrom_eq _ _ alike]

/-! ## Members -/

theorem isAppendable_eq (type : TypeRef) : model.isAppendable type = model'.isAppendable type := by
  have found := agrees.rel_lookup? type
  unfold isAppendable
  generalize model.lookup? type = here, model'.lookup? type = there at found ⊢
  cases found with
  | none => simp only [Option.any_none]
  | some alike =>
    simp only [Option.any_some, alike.isConstructible_eq, agrees.inheritsAdd_eq alike]

theorem any_isConstructible_eq (type : TypeRef) :
    (model.lookup? type).any (·.isConstructible) =
      (model'.lookup? type).any (·.isConstructible) := by
  have found := agrees.rel_lookup? type
  generalize model.lookup? type = here, model'.lookup? type = there at found ⊢
  cases found with
  | none => rfl
  | some alike => exact alike.isConstructible_eq

theorem classify_eq (config : Configuration) {type : TypeRef}
    (same : type.bare.isString = false →
      model.interfaces type.bare = model'.interfaces type.bare) :
    classify model config type = classify model' config type := by
  have deciding : model.decidingInterfaces type.bare = model'.decidingInterfaces type.bare := by
    unfold decidingInterfaces
    cases text : type.bare.isString with
    | true => rfl
    | false => exact same text
  simp only [classify, deciding, collectionOf?, agrees.isAppendable_eq,
    agrees.any_isConstructible_eq]

theorem ofDeclaration_eq {declaration declaration' : NamedType}
    (alike : declaration.Alike declaration') (type : TypeRef) :
    Entity.ofDeclaration model declaration type =
      Entity.ofDeclaration model' declaration' type := by
  have levels := agrees.forall₂_levels alike (declaration.bindingsFor type)
  obtain ⟨attributes, rfl⟩ := alike
  simp only [Entity.ofDeclaration, Entity.collectProperties_eq levels]
  rfl

theorem resolve_eq (reference : TypeRef) :
    Entity.resolve model reference = Entity.resolve model' reference := by
  have found := agrees.rel_findDeclaration? reference
  unfold Entity.resolve
  generalize Entity.findDeclaration? model reference = here,
    Entity.findDeclaration? model' reference = there at found ⊢
  cases found with
  | none => rfl
  | some alike =>
    simp only [agrees.ofDeclaration_eq alike]
    obtain ⟨attributes, rfl⟩ := alike
    rfl

theorem planMembers_eq {entity : Entity} {config : Configuration} (builder : NamedType)
    (same : ∀ member ∈ entity.candidates config.builder.unreachableSetters,
      member.type.bare.isString = false →
        model.interfaces member.type.bare = model'.interfaces member.type.bare) :
    planMembers model entity config builder = planMembers model' entity config builder := by
  have outcomes : (entity.candidates config.builder.unreachableSetters).map
        (trackMember model config builder) =
      (entity.candidates config.builder.unreachableSetters).map
        (trackMember model' config builder) := by
    refine List.map_congr_left fun member hmember => ?_
    simp only [trackMember, agrees.classify_eq config (same member hmember)]
  simp only [planMembers, outcomes]

/-! ## Units -/

theorem forUnit_eq (builder : NamedType) (invocation : Attribute) :
    Configuration.forUnit model builder invocation =
      Configuration.forUnit model' builder invocation := by
  simp only [Configuration.forUnit, agrees.assemblyAttributes, agrees.nullableEnabled]

/-- A builder is generated alike if the same becomes of the members of its entity. -/
theorem generateBuilder_eq {builder : NamedType} {a : Attribute}
    (same : ∀ reference config entity, a.entity? = some reference →
      Configuration.forUnit model builder a = .ok config →
      Entity.resolve model reference = .ok entity → entity.isAbstract = false →
      planMembers model entity config builder = planMembers model' entity config builder) :
    generateBuilder model builder a = generateBuilder model' builder a := by
  unfold generateBuilder
  rw [← agrees.forUnit_eq]
  simp only [← agrees.resolve_eq]
  cases named : a.entity? with
  | none => simp [bind, Except.bind]
  | some reference =>
    cases configured : Configuration.forUnit model builder a with
    | error error => simp [bind, Except.bind]
    | ok config =>
      cases resolved : Entity.resolve model reference with
      | error error => simp [bind, Except.bind, resolved]
      | ok entity =>
        cases abstract : entity.isAbstract with
        | true => simp [bind, Except.bind, resolved, abstract]
        | false =>
          have plan := same reference config entity named configured resolved abstract
          simp [bind, Except.bind, resolved, abstract, synthesize, plan]

/-- The same comes of a unit over snapshots that answer alike, if the same interfaces are found of the
types that it classifies. -/
theorem run_eq_of_interfaces {unit : GenerationUnit}
    (same : ∀ type ∈ unit.classified model, model.interfaces type = model'.interfaces type) :
    unit.run model = unit.run model' := by
  have generated : unit.generate model = unit.generate model' := by
    cases shadowed : unit.shadowedBy with
    | some first => simp only [GenerationUnit.generate, shadowed]
    | none =>
      simp only [GenerationUnit.generate, shadowed]
      refine agrees.generateBuilder_eq
        fun reference config entity named configured resolved abstract => ?_
      refine agrees.planMembers_eq unit.builder fun member hmember text => same _ ?_
      simp only [GenerationUnit.classified, shadowed, named, configured, resolved, abstract,
        Option.map_some, Bool.false_eq_true, if_false]
      exact List.mem_filter.mpr ⟨List.mem_map_of_mem hmember, by simp [text]⟩
  rw [GenerationUnit.run, GenerationUnit.run, generated]

/-- The same comes of every unit if walks have the same bound. -/
theorem run_eq (limit : model.walkLimit = model'.walkLimit) (unit : GenerationUnit) :
    unit.run model = unit.run model' :=
  agrees.run_eq_of_interfaces fun _ _ => congrFun (agrees.interfaces_eq limit) _

end Compilation.Agrees

end FluentGen
