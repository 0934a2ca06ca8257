import FluentGen.Proofs.DeclaredFramework
import FluentGen.Proofs.FrameworkGraph
import FluentGen.Proofs.Overloads
import FluentGen.Proofs.TypeParts
/-!
# What appends to a collection

A class of sequences is filled by calling its method `Add` for one item after the other. A class
counts as such if it is a sequence of items and has an instance method `Add` of one parameter, which
it declares or inherits. What type the parameter has is not asked, so items can be appended where
`Add` takes what the class is a sequence of.

## Main definitions
* `Compilation.Inherits`: going to base classes, any number of times.
* `Compilation.Adds`: a class declares an `Add` that takes a type.
* `Compilation.IsSequenceOf`: a type is a sequence of items of a type.
* `Compilation.TakesItem`: a type declares or inherits an `Add` that takes items of a type.

## Main statements
* `Compilation.exists_adds_of_inheritsAddFrom`: what the walk along base classes finds.
* `Compilation.exists_adds_and_isSequenceOf`: what a class filled by appending has.
* `Compilation.takesItem_iff`: items can be appended where `Add` takes them.
-/
namespace FluentGen

open Framework

namespace Compilation

/-- The base class of a reference, over the type arguments of the reference. -/
def baseReference? (model : Compilation) (reference : TypeRef) : Option TypeRef :=
  (model.lookup? reference).bind fun declaration =>
    declaration.baseType.map (TypeRef.substitute (declaration.bindingsFor reference))

/-- Whether `base` is reached from `type` by going to base classes. -/
def Inherits (model : Compilation) (type base : TypeRef) : Prop :=
  Relation.ReflTransGen (fun derived base => model.baseReference? derived = some base) type base

/-- Whether the class behind a reference declares an instance method that appends what is of type
`added`, over the type arguments of the reference. -/
def Adds (model : Compilation) (reference added : TypeRef) : Prop :=
  ∃ declaration ∈ model.lookup? reference, ∃ method ∈ declaration.methods,
    method.name = addMethod ∧ method.isStatic = false ∧ ∃ parameter,
      method.parameters = [parameter] ∧
        added = parameter.type.substitute (declaration.bindingsFor reference)

/-- Whether a reference is to a sequence of items of a type, annotations aside. -/
def IsSequenceOf (model : Compilation) (reference item : TypeRef) : Prop :=
  ∃ sequence element, model.Reaches reference sequence ∧ sequence.isInterface = true ∧
    sequence.key = enumerableKey ∧ sequence.arguments.head? = some element ∧
      element.sameType item = true

/-- Whether a class declares or inherits a method that appends items of a type, annotations aside. -/
def TakesItem (model : Compilation) (type item : TypeRef) : Prop :=
  ∃ base added, model.Inherits type base ∧ model.Adds base added ∧ added.sameType item = true

variable {model : Compilation} {type base reference element item added : TypeRef}

/-! ## Base classes -/

theorem mem_supertypes_of_baseReference? (h : model.baseReference? reference = some base) :
    base ∈ model.supertypes reference := by
  obtain ⟨declaration, found, extended⟩ := Option.bind_eq_some_iff.mp h
  obtain ⟨written, hwritten, rfl⟩ := Option.map_eq_some_iff.mp extended
  simp only [supertypes, found]
  exact List.mem_map_of_mem (List.mem_append_right _ (by simp [hwritten]))

theorem Inherits.reaches (h : model.Inherits type base) : model.Reaches type base :=
  Relation.ReflTransGen.mono (fun _ _ => mem_supertypes_of_baseReference?) _ _ h

theorem exists_adds_of_declaresAdd {declaration : NamedType}
    (found : model.lookup? reference = some declaration) (declares : declaration.declaresAdd = true) :
    ∃ added, model.Adds reference added := by
  obtain ⟨method, hmethod, appends⟩ := List.any_eq_true.mp declares
  simp only [Bool.and_eq_true, beq_iff_eq, Bool.not_eq_true', List.length_eq_one_iff] at appends
  obtain ⟨⟨name, notStatic⟩, parameter, one⟩ := appends
  exact ⟨_, declaration, found, method, hmethod, name, notStatic, parameter, one, rfl⟩

/-- What the walk along base classes finds is an `Add` that is declared or inherited: it looks for
base classes as they are written, and these have the keys of the base classes over type arguments. -/
theorem exists_adds_of_inheritsAddFrom
    (applied : ∀ declaration ∈ model.types, ∀ base ∈ declaration.baseType, base.kind ≠ .typeParameter)
    {bound : Nat} {visited : List String} {declaration : NamedType}
    (found : model.lookup? reference = some declaration)
    (h : model.inheritsAddFrom bound visited declaration = true) :
    ∃ base added, model.Inherits reference base ∧ model.Adds base added := by
  induction bound generalizing visited declaration reference with
  | zero => cases h
  | succ bound ih =>
    rw [inheritsAddFrom] at h
    split at h
    · cases h
    split at h
    next declares =>
      obtain ⟨added, adds⟩ := exists_adds_of_declaresAdd found declares
      exact ⟨reference, added, .refl, adds⟩
    next =>
      split at h
      next next step =>
        obtain ⟨written, extended, found'⟩ := Option.bind_eq_some_iff.mp step
        have applied' : written.kind ≠ .typeParameter := by
          rcases List.mem_append.mp (mem_of_lookup? found) with declared | known
          · exact applied declaration declared written extended
          · rw [(isListed known).baseType] at extended
            cases extended
        have closed : model.baseReference? reference =
            some (written.substitute (declaration.bindingsFor reference)) := by
          rw [baseReference?, found, Option.bind_some, extended, Option.map_some]
        have found'' : model.lookup? (written.substitute (declaration.bindingsFor reference)) =
            some next := by
          rw [lookup?, resolve?, TypeRef.key_substitute applied']
          exact found'
        obtain ⟨base, added, inherits, adds⟩ := ih found'' h
        exact ⟨base, added, inherits.head closed, adds⟩
      next => cases h

theorem exists_adds_of_isAppendable
    (applied : ∀ declaration ∈ model.types, ∀ base ∈ declaration.baseType, base.kind ≠ .typeParameter)
    (h : model.isAppendable reference = true) :
    ∃ base added, model.Inherits reference base ∧ model.Adds base added := by
  unfold isAppendable at h
  cases found : model.lookup? reference with
  | none => simp [found] at h
  | some declaration =>
    rw [found, Option.any_some, Bool.and_eq_true] at h
    exact exists_adds_of_inheritsAddFrom applied found h.2

/-! ## Sequences -/

/-- Which classes count as filled by appending, apart from maps: sequences that can be made empty and
have a method that appends, whatever its type. -/
theorem of_collectionOf?_eq_concreteSequence {interfaces : List TypeRef}
    (h : model.collectionOf? type interfaces = some (.concreteSequence element)) :
    type.isString = false ∧ model.isAppendable type = true ∧
      ∃ sequence ∈ interfaces, sequence.key = enumerableKey ∧
        sequence.arguments.head? = some element := by
  unfold collectionOf? at h
  split at h
  · cases h
  split at h
  · cases h
  next string =>
    split at h
    · split at h
      · split at h
        · cases h
        split at h <;> cases h
      · cases h
    next missing =>
      obtain ⟨sequence, found, h⟩ := Option.bind_eq_some_iff.mp h
      obtain ⟨first, head, h⟩ := Option.bind_eq_some_iff.mp h
      split at h
      · cases h
      split at h
      next appendable =>
        cases h
        exact ⟨by simpa using string, appendable, sequence, List.mem_of_find?_eq_some found,
          by simpa using List.find?_some found, head⟩
      next => cases h

/-- A concrete sequence has a method that appends, and its items are those of a sequence that it
is. -/
theorem exists_adds_and_isSequenceOf {config : Configuration}
    (applied : ∀ declaration ∈ model.types, ∀ base ∈ declaration.baseType, base.kind ≠ .typeParameter)
    (found : (classify model config type).collection = some (.concreteSequence element)) :
    (∃ base added, model.Inherits type.bare base ∧ model.Adds base added) ∧
      model.IsSequenceOf type.bare element := by
  obtain ⟨string, appendable, sequence, mem, key, head⟩ := of_collectionOf?_eq_concreteSequence found
  refine ⟨exists_adds_of_isAppendable applied appendable, sequence, element, ?_⟩
  rw [decidingInterfaces, if_neg (by simp [string])] at mem
  exact ⟨reaches_of_mem_interfaces mem, isInterface_of_mem_interfaces mem, key, head,
    (TypeRef.sameType_iff _ _).mpr rfl⟩

theorem Inherits.isSequenceOf (h : model.Inherits type base) (sequence : model.IsSequenceOf base item) :
    model.IsSequenceOf type item := by
  obtain ⟨reached, element, reaches, rest⟩ := sequence
  exact ⟨reached, element, h.reaches.trans reaches, rest⟩

/-- A concrete sequence declares or inherits a method that appends. Where all sequences that it is
have the same items, this method takes them if and only if it takes items of any sequence that the
class is; and it does so if each class that declares such a method is a sequence of what the method
takes. -/
theorem takesItem_iff {config : Configuration}
    (applied : ∀ declaration ∈ model.types, ∀ base ∈ declaration.baseType, base.kind ≠ .typeParameter)
    (found : (classify model config type).collection = some (.concreteSequence element))
    (single : ∀ item, model.IsSequenceOf type.bare item → item.sameType element = true) :
    (∃ base added, model.Inherits type.bare base ∧ model.Adds base added) ∧
    (model.TakesItem type.bare element ↔ ∃ base added, model.Inherits type.bare base ∧
      model.Adds base added ∧ model.IsSequenceOf type.bare added) ∧
    ((∀ base added, model.Inherits type.bare base → model.Adds base added →
      model.IsSequenceOf base added) → model.TakesItem type.bare element) := by
  obtain ⟨appends, sequence, own, reached, interface, key, head, same⟩ :=
    exists_adds_and_isSequenceOf applied found
  refine ⟨appends, ⟨?_, ?_⟩, ?_⟩
  · rintro ⟨base, added, inherits, adds, same'⟩
    refine ⟨base, added, inherits, adds, sequence, own, reached, interface, key, head, ?_⟩
    rw [TypeRef.sameType_iff] at same same' ⊢
    exact same.trans same'.symm
  · rintro ⟨base, added, inherits, adds, items⟩
    exact ⟨base, added, inherits, adds, single added items⟩
  · intro consistent
    obtain ⟨base, added, inherits, adds⟩ := appends
    have items := inherits.isSequenceOf (consistent base added inherits adds)
    exact ⟨base, added, inherits, adds, single added items⟩

/-- A class of order lines inherits the `Add` of the list that it is. -/
theorem takesItem_iff_orderLines :
    let line := TypeRef.named "Shop" "OrderLine" .classType
    let lines := TypeRef.named "Shop" "OrderLines" .classType
    let model : Compilation :=
      { types := [{ name := "OrderLines", qualifier := "Shop", baseType := some (listOf line) }] }
    (∀ declaration ∈ model.types, ∀ base ∈ declaration.baseType, base.kind ≠ .typeParameter) ∧
      (classify model .default lines).collection = some (.concreteSequence line) ∧
      (∀ item, model.IsSequenceOf lines.bare item → item.sameType line = true) ∧
      model.TakesItem lines.bare line := by
  intro line lines model
  have applied : ∀ declaration ∈ model.types, ∀ base ∈ declaration.baseType,
      base.kind ≠ .typeParameter := by decide
  have found : (classify model .default lines).collection = some (.concreteSequence line) := by
    decide +kernel
  have single : ∀ item, model.IsSequenceOf lines.bare item → item.sameType line = true := by
    rintro item ⟨sequence, element, reached, -, key, head, same⟩
    have mem := reached.mem
      [lines, listOf line, interfaceOf "IList" [line],
        interfaceOf "IReadOnlyList" [line], interfaceOf "ICollection" [line],
        interfaceOf "IReadOnlyCollection" [line], interfaceOf "IEnumerable" [line]]
      (.head _) (by decide)
    have only : ∀ r ∈ [lines, listOf line, interfaceOf "IList" [line],
        interfaceOf "IReadOnlyList" [line], interfaceOf "ICollection" [line],
        interfaceOf "IReadOnlyCollection" [line], interfaceOf "IEnumerable" [line]],
        r.key = enumerableKey → r.arguments.head? = some line := by decide
    obtain rfl : line = element := Option.some.inj ((only sequence mem key).symm.trans head)
    rw [TypeRef.sameType_iff] at same ⊢
    exact same.symm
  refine ⟨applied, found, single, (takesItem_iff applied found single).2.1.mpr ?_⟩
  refine ⟨listOf line, line, .single (by decide), ?_, ?_⟩
  · let list := sequenceClass collections "List" [interfaceOf "IList" item,
      interfaceOf "IReadOnlyList" item]
    have known : model.lookup? (listOf line) = some list := by decide
    exact ⟨list, known, _, .head _, rfl, rfl, _, rfl, by decide⟩
  · exact (exists_adds_and_isSequenceOf applied found).2

/-- A class of texts whose only `Add` takes a number is filled by appending texts all the same. -/
theorem not_takesItem_bag :
    let bag := TypeRef.named "Shop" "Bag" .classType
    let model : Compilation :=
      { types := [{ name := "Bag", qualifier := "Shop",
                    interfaces := [interfaceOf "IEnumerable" [.keyword "string"]],
                    methods := [{ name := "Add",
                                  parameters := [{ name := "count", type := .keyword "int" }] }] }] }
    (classify model .default bag).collection = some (.concreteSequence (.keyword "string")) ∧
      ¬ model.TakesItem bag.bare (.keyword "string") := by
  intro bag model
  refine ⟨by decide +kernel, ?_⟩
  rintro ⟨base, added, inherits, ⟨declaration, found, method, declared, -, -, parameter, one, rfl⟩,
    same⟩
  have top : model.baseReference? bag = none := by decide
  obtain rfl : bag = base := by
    rcases Relation.ReflTransGen.cases_head inherits with same | ⟨next, step, -⟩
    · exact same
    · exact absurd (top.symm.trans step) nofun
  obtain rfl : model.types.head (by decide) = declaration := by
    have here : model.lookup? bag = some (model.types.head (by decide)) := by decide
    exact Option.some.inj (here.symm.trans found)
  obtain rfl := List.mem_singleton.mp declared
  obtain rfl := List.singleton_inj.mp one
  exact absurd same (by decide)

end Compilation

end FluentGen
