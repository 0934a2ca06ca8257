import FluentGen.Proofs.FrameworkGraph
import FluentGen.Proofs.Reporting
import FluentGen.Proofs.TypeParameters
import Mathlib.Data.List.MinMax
/-!
# The constructor to call

A class can be made without arguments if it declares a visible constructor without parameters, or no
constructor at all, since it then has an implicit one. The constructor that a builder calls is the
visible one with the most parameters among those that are declared. Both agree on a class that
declares a constructor. On a class that declares none the builder knows nothing to call.

## Main definitions
* `IsWidest`: the first of the visible constructors with the most parameters.
* `Entity.OffersConstructor`: whether a shape has a constructor to call and builders call it.
* `AgreesOnConstructors`: whether the shape of a class that can be made without arguments does.

## Main statements
* `Entity.selectConstructor?_eq_some_iff`: the constructor that is selected is the widest.
* `agreesOnConstructors_iff`: agreement is exactly on the classes that declare a constructor.
-/
namespace FluentGen

/-- Whether a constructor is, of the visible ones, the first declared with the most parameters. -/
structure IsWidest (constructors : List Constructor) (constructor : Constructor) : Prop where
  most : ∀ other ∈ constructors, other.accessibility.isAssemblyVisible = true →
    other.parameters.length ≤ constructor.parameters.length
  first : constructors.find? (fun other => other.accessibility.isAssemblyVisible &&
    other.parameters.length == constructor.parameters.length) = some constructor

/-- Whether the shape of a declaration has a constructor to call, and builders call it. -/
structure Entity.OffersConstructor (model : Compilation) (declaration : NamedType)
    (entity : Entity) : Prop where
  concrete : entity.isAbstract = false
  parameters : entity.constructorParameters ≠ none
  /-- The type parameters of the declaration stand for themselves, so types are as declared. -/
  widest : declaration.constructors ≠ [] → ∃ constructor,
    IsWidest declaration.constructors constructor ∧
      entity.constructorParameters = some (constructor.parameters.map fun parameter =>
        ⟨parameter.name, parameter.type, .constructorParameter⟩)
  builds : ∀ config builder, builder.hasBuild = false →
    ∃ method, .build method ∈ (GeneratedClass.of model entity config builder).members
  /-- The lack of a constructor is never reported. -/
  reports : ∀ config builder, "BSG004" ∉ (synthesize model entity config builder).ids

/-- Whether the entity over a declaration has a constructor to call where the class can be made
without arguments. -/
def AgreesOnConstructors (model : Compilation) (declaration : NamedType) : Prop :=
  declaration.isConstructible = true → ∃ entity,
    Entity.resolve model declaration.selfRef = .ok entity ∧
      entity.OffersConstructor model declaration

/-! ## The widest constructor -/

/-- What has the greatest value is found as the first with this value. -/
theorem find?_of_mem_argmax {α : Type} {f : α → Nat} {items : List α} {item : α}
    (h : item ∈ items.argmax f) : items.find? (f · == f item) = some item := by
  induction items using List.reverseRecOn generalizing item with
  | nil => cases h
  | append_singleton items last ih =>
    rw [List.argmax_concat] at h
    rw [List.find?_append]
    cases greatest : items.argmax f with
    | none =>
      obtain rfl := List.argmax_eq_none.mp greatest
      obtain rfl := Option.some.inj h
      simp
    | some current =>
      simp only [greatest] at h
      split at h
      next less =>
        -- The last item is greater than all before it, so none of these has its value.
        obtain rfl := Option.some.inj h
        have none : items.find? (f · == f last) = none := by
          rw [List.find?_eq_none]
          intro other hother
          have := List.le_of_mem_argmax hother greatest
          simp only [beq_iff_eq]
          omega
        simp [none]
      next =>
        obtain rfl := Option.some.inj h
        rw [ih greatest, Option.some_or]

namespace Entity

variable {constructors : List Constructor} {constructor : Constructor}

theorem selectConstructor?_eq_argmax (constructors : List Constructor) :
    selectConstructor? constructors =
      (constructors.filter (·.accessibility.isAssemblyVisible)).argmax (·.parameters.length) := by
  unfold selectConstructor? List.argmax
  congr 1
  funext best constructor
  cases best with
  | none => rfl
  | some current => simp only [List.argAux, ← Nat.not_lt, ite_not]

/-- The constructor that is selected is the first of the visible ones with the most parameters. -/
theorem selectConstructor?_eq_some_iff :
    selectConstructor? constructors = some constructor ↔ IsWidest constructors constructor := by
  have visible : ∀ other ∈ constructors, other.accessibility.isAssemblyVisible = true →
      other ∈ constructors.filter (·.accessibility.isAssemblyVisible) :=
    fun other hother h => List.mem_filter.mpr ⟨hother, h⟩
  have widest : ∀ selected, selectConstructor? constructors = some selected →
      IsWidest constructors selected := by
    intro selected h
    rw [selectConstructor?_eq_argmax] at h
    refine ⟨fun other hother seen => ?_, ?_⟩
    · exact List.le_of_mem_argmax (f := fun other : Constructor => other.parameters.length)
        (visible other hother seen) h
    · simpa only [List.find?_filter, Bool.decide_and, Bool.decide_eq_true] using
        find?_of_mem_argmax h
  refine ⟨widest constructor, fun h => ?_⟩
  have seen := List.find?_some h.first
  cases selection : selectConstructor? constructors with
  | none =>
    rw [selectConstructor?_eq_argmax, List.argmax_eq_none] at selection
    have := visible constructor (List.mem_of_find?_eq_some h.first) (Bool.and_eq_true_iff.mp seen).1
    simp [selection] at this
  | some selected =>
    have h' := widest selected selection
    have seen' := List.find?_some h'.first
    -- Two widest constructors are equally wide, so the same search finds them.
    have same : selected.parameters.length = constructor.parameters.length :=
      Nat.le_antisymm
        (h.most selected (List.mem_of_find?_eq_some h'.first) (Bool.and_eq_true_iff.mp seen').1)
        (h'.most constructor (List.mem_of_find?_eq_some h.first) (Bool.and_eq_true_iff.mp seen).1)
    exact (same ▸ h'.first).symm.trans h.first

end Entity

/-! ## Agreement -/

theorem NamedType.isConstructible_iff {declaration : NamedType} :
    declaration.isConstructible = true ↔ declaration.isAbstract = false ∧
      (declaration.constructors = [] ∨ ∃ constructor ∈ declaration.constructors,
        constructor.parameters = [] ∧ constructor.accessibility.isAssemblyVisible = true) := by
  simp [isConstructible]

namespace Entity

variable {model : Compilation} {declaration : NamedType}

/-- A declaration that is found by its key is the one behind the reference to itself. -/
theorem resolve_selfRef (indexed : model.find? declaration.key = some declaration) :
    resolve model declaration.selfRef =
      .ok (ofDeclaration model declaration declaration.selfRef) := by
  have key : declaration.selfRef.key = declaration.key := by
    rw [NamedType.selfRef, TypeRef.key_generic, List.length_map, NamedType.key]
  have found : findDeclaration? model declaration.selfRef = some declaration := by
    rw [findDeclaration?, Compilation.resolve?, key, indexed, Option.some_or]
  have self : referenceFor declaration declaration.selfRef = declaration.selfRef := by
    unfold referenceFor
    rw [if_pos (by simp [NamedType.selfRef, TypeRef.generic])]
    rfl
  exact resolve_eq_ok_iff.mpr ⟨declaration, found, by rw [self]⟩

theorem constructorParameters_selfRef :
    (ofDeclaration model declaration declaration.selfRef).constructorParameters =
      (selectConstructor? declaration.constructors).map fun constructor =>
        constructor.parameters.map fun parameter =>
          ⟨parameter.name, parameter.type, .constructorParameter⟩ := by
  simp only [ofDeclaration, NamedType.bindingsFor_selfRef, TypeRef.substitute_nil]

theorem offersConstructor_selfRef (concrete : declaration.isAbstract = false)
    (proper : declaration.kind ≠ .interfaceType) {constructor : Constructor}
    (widest : IsWidest declaration.constructors constructor) :
    (ofDeclaration model declaration declaration.selfRef).OffersConstructor model declaration := by
  have parameters : (ofDeclaration model declaration declaration.selfRef).constructorParameters = _ :=
    constructorParameters_selfRef
  rw [selectConstructor?_eq_some_iff.mpr widest, Option.map_some] at parameters
  refine ⟨?_, by simp [parameters], fun _ => ⟨constructor, widest, parameters⟩, ?_, ?_⟩
  · simp [ofDeclaration, concrete, proper]
  · intro config builder absent
    rw [GeneratedClass.exists_build_mem_members_iff, GeneratedClass.generatesBuild, absent,
      parameters]
    rfl
  · intro config builder
    rw [noConstructor_mem_ids_iff, parameters]
    exact fun reported => Option.some_ne_none _ reported.2

end Entity

/-- A class that is not abstract and the shape of the entity over it agree on whether there is a
constructor to call exactly if the class declares one. -/
theorem agreesOnConstructors_iff {model : Compilation} {declaration : NamedType}
    (indexed : model.find? declaration.key = some declaration)
    (concrete : declaration.isAbstract = false) (proper : declaration.kind ≠ .interfaceType) :
    AgreesOnConstructors model declaration ↔ declaration.constructors ≠ [] := by
  constructor
  · intro agrees implicit
    obtain ⟨entity, resolved, offers⟩ :=
      agrees (NamedType.isConstructible_iff.mpr ⟨concrete, .inl implicit⟩)
    obtain rfl := Except.ok.inj ((Entity.resolve_selfRef indexed).symm.trans resolved)
    refine offers.parameters ?_
    rw [Entity.constructorParameters_selfRef, implicit]
    rfl
  · intro declared constructible
    refine ⟨_, Entity.resolve_selfRef indexed, ?_⟩
    obtain implicit | ⟨constructor, hconstructor, -, visible⟩ :=
      (NamedType.isConstructible_iff.mp constructible).2
    · exact absurd implicit declared
    cases selection : Entity.selectConstructor? declaration.constructors with
    | some selected =>
      exact Entity.offersConstructor_selfRef concrete proper
        (Entity.selectConstructor?_eq_some_iff.mp selection)
    | none =>
      rw [Entity.selectConstructor?_eq_argmax, List.argmax_eq_none] at selection
      exact absurd visible (by simpa using List.filter_eq_nil_iff.mp selection _ hconstructor)

/-- A class `Order` with constructors of the given accessibilities and parameters. -/
def NamedType.orderOf (constructors : List (Accessibility × List Parameter)) : NamedType where
  name := "Order"
  qualifier := "Shop"
  constructors := constructors.map fun (accessibility, parameters) =>
    { accessibility := accessibility, parameters := parameters }

/-- Of several constructors, a class can be made with the one without parameters, and a builder calls
the first of the widest visible ones. -/
theorem agreesOnConstructors_overloaded :
    let id : Parameter := ⟨"id", .keyword "int"⟩
    let name : Parameter := ⟨"name", .keyword "string"⟩
    let order := NamedType.orderOf [(.internalAccess, []), (.publicAccess, [id]),
      (.internalAccess, [name]), (.privateAccess, [id, name])]
    let model : Compilation := { types := [order] }
    model.find? order.key = some order ∧ order.isAbstract = false ∧ order.kind ≠ .interfaceType ∧
      order.isConstructible = true ∧ order.constructors ≠ [] ∧
      AgreesOnConstructors model order ∧
      (Entity.ofDeclaration model order order.selfRef).parameters.map (·.name) = ["id"] := by
  intro id name order model
  have indexed : model.find? order.key = some order := by decide
  have declared : order.constructors ≠ [] := List.cons_ne_nil _ _
  exact ⟨indexed, rfl, by decide, by decide, declared,
    (agreesOnConstructors_iff indexed rfl (by decide)).mpr declared, by decide⟩

/-- A class that declares no constructor can be made without arguments, but the shape of the entity
has nothing to call. -/
theorem not_agreesOnConstructors_implicit :
    let order := NamedType.orderOf []
    order.isConstructible = true ∧ ¬ AgreesOnConstructors { types := [order] } order := by
  intro order
  refine ⟨by decide, fun agrees => ?_⟩
  obtain ⟨entity, resolved, offers⟩ := agrees (by decide)
  obtain rfl := Except.ok.inj resolved
  exact offers.parameters rfl

end FluentGen
