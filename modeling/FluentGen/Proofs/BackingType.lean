import FluentGen.Classification
import FluentGen.Proofs.FrameworkGraph
/-!
# The classes that stand behind collections

A collection is made as an object of its backing type and then assigned to the member. That fits
where the backing type is the type of the member or implements it.

## Main definitions
* `Compilation.Assignable`: one reference is another or implements it.
* `Framework.backingOf`: the class behind a collection interface of the framework.
* `Compilation.Misfit`: a type whose collection does not fit it.

## Main statements
* `Compilation.collection_filled`: the kind of each collection interface of the framework.
* `Compilation.backingType_filled`: the class behind it extends it, over the same arguments.
* `Compilation.assignable_backingType_iff`: where backing types fit.
-/
namespace FluentGen

open Framework

namespace Framework

/-! ## The class behind an interface -/

/-- The class that stands behind a collection interface. -/
def backingOf (interface : NamedType) : String :=
  if interface.typeParameters.length = 2 then "Dictionary"
  else if interface.key ∈ setKeys then "HashSet"
  else "List"

/-- Only maps extend maps and only sets extend sets; the class behind an interface extends it. -/
theorem backing_of_interface : ∀ interface ∈ definitions, interface.kind = .interfaceType →
    (interface.key ∈ mapKeys ↔ interface.typeParameters.length = 2) ∧
      (∀ ancestor ∈ lineage interface,
        (ancestor.key ∈ mapKeys → interface.key ∈ mapKeys) ∧
          (ancestor.key ∈ setKeys → interface.key ∈ setKeys)) ∧
      ∃ backing ∈ definitions, backing.qualifier = collections ∧ backing.kind = .classType ∧
        backing.name = backingOf interface ∧
        backing.typeParameters.length = interface.typeParameters.length ∧
        interface ∈ lineage backing := by
  decide +kernel

end Framework

namespace Compilation

variable {model : Compilation} {type : TypeRef} {collection : Collection}

/-- Whether `source` is `target` without its annotation, or implements it. -/
def Assignable (model : Compilation) (source target : TypeRef) : Prop :=
  source = target.bare ∨ target.bare ∈ model.interfaces source

/-! ## Kinds of collections -/

/-- The two kinds of collections that an interface can be. -/
theorem collectionOf?_of_isInterface {interfaces : List TypeRef}
    (interface : type.isInterface = true)
    (h : model.collectionOf? type interfaces = some collection) :
    type.isString = false ∧
      ((∃ map key value, interfaces.find? (fun i => i.key ∈ mapKeys) = some map ∧
          map.arguments = [key, value] ∧ collection = .interfaceMap key value) ∨
        (interfaces.find? (fun i => i.key ∈ mapKeys) = none ∧
          ∃ sequence element, interfaces.find? (·.key == enumerableKey) = some sequence ∧
            sequence.arguments.head? = some element ∧
            collection = .interfaceSequence element (interfaces.any (·.key ∈ setKeys)))) := by
  have shape : type.kind = .interfaceType := by simpa [TypeRef.isInterface] using interface
  have element : type.elementType? = none := by simp [TypeRef.elementType?, shape]
  simp only [collectionOf?, element] at h
  split at h
  · simp at h
  · next string =>
    refine ⟨by simpa using string, ?_⟩
    split at h
    · next map found =>
      split at h
      · next key value arguments =>
        exact .inl ⟨map, key, value, found, arguments, (Option.some.inj h).symm⟩
      · simp at h
    · next missing =>
      obtain ⟨sequence, found, h⟩ := Option.bind_eq_some_iff.mp h
      obtain ⟨element, first, h⟩ := Option.bind_eq_some_iff.mp h
      exact .inr ⟨missing, sequence, element, found, first, (Option.some.inj h).symm⟩

theorem backingType_of_not_isInterface {interfaces : List TypeRef}
    (h : model.collectionOf? type.bare interfaces = some collection)
    (concrete : type.isInterface = false)
    (array : type.kind = .arrayType → ∃ element, type.bare = .arrayOf element) :
    collection.backingType type = type.bare := by
  have concrete : type.bare.isInterface = false := concrete
  simp only [collectionOf?, concrete] at h
  split at h
  · next element found =>
    obtain rfl := Option.some.inj h
    have shape : type.kind = .arrayType := by
      by_contra shape
      simp [TypeRef.elementType?, TypeRef.bare, shape] at found
    obtain ⟨item, same⟩ := array shape
    have : element = item := by simpa [same, TypeRef.elementType?, TypeRef.arrayOf] using found.symm
    rw [same, this, Collection.backingType]
  · split at h
    · simp at h
    · split at h
      · split at h
        · simp only [Bool.false_eq_true, if_false, Option.ite_none_right_eq_some] at h
          rw [← Option.some.inj h.2, Collection.backingType]
        · simp at h
      · obtain ⟨sequence, -, h⟩ := Option.bind_eq_some_iff.mp h
        obtain ⟨element, -, h⟩ := Option.bind_eq_some_iff.mp h
        simp only [Bool.false_eq_true, if_false, Option.ite_none_right_eq_some] at h
        rw [← Option.some.inj h.2, Collection.backingType]

section Filled

variable {interface : NamedType} {item key value : TypeRef}

theorem any_setKeys_filled (keeps : model.KeepsFramework) (declared : interface ∈ definitions)
    (shape : interface.kind = .interfaceType) (fills : Fills item key value interface)
    (first : filled item key value interface ∈ model.interfaces (filled item key value interface)) :
    (model.interfaces (filled item key value interface)).any (·.key ∈ setKeys) =
      decide (interface.key ∈ setKeys) := by
  rw [Bool.eq_iff_iff, List.any_eq_true, decide_eq_true_iff]
  constructor
  · rintro ⟨r, found, isSet⟩
    obtain ⟨ancestor, listed, rfl⟩ := eq_filled_of_mem_interfaces keeps declared fills found
    rw [key_filled ((isListed declared).lineage ancestor listed).1, decide_eq_true_iff] at isSet
    exact ((backing_of_interface interface declared shape).2.1 ancestor listed).2 isSet
  · intro isSet
    exact ⟨_, first, by simpa [key_filled declared] using isSet⟩

/-- A collection interface of the framework is a map if it has a key, and else a sequence. -/
theorem collection_filled (keeps : model.KeepsFramework) (declared : interface ∈ definitions)
    (shape : interface.kind = .interfaceType) (fills : Fills item key value interface)
    (h : model.collectionOf? (filled item key value interface)
      (model.interfaces (filled item key value interface)) = some collection) :
    collection =
      if interface.typeParameters.length = 2 then .interfaceMap key value
      else .interfaceSequence item (interface.key ∈ setKeys) := by
  obtain ⟨mapKey, above, -⟩ := backing_of_interface interface declared shape
  have isInterface : (filled item key value interface).isInterface = true := by
    simp [filled, NamedType.constructed, TypeRef.generic, TypeRef.isInterface, shape]
  obtain ⟨-, ⟨map, k, v, found, given, rfl⟩ | ⟨missing, sequence, element, found, given, rfl⟩⟩ :=
    collectionOf?_of_isInterface isInterface h
  · have mem := List.mem_of_find?_eq_some found
    obtain ⟨ancestor, listed, same⟩ := eq_filled_of_mem_interfaces keeps declared fills mem
    have isMap : interface.key ∈ mapKeys := by
      refine (above ancestor listed).1 ?_
      simpa [same, key_filled ((isListed declared).lineage ancestor listed).1]
        using List.find?_some found
    -- The interface itself is then the first map.
    obtain ⟨others, split⟩ := List.head?_eq_some_iff.mp
      (head?_interfaces isInterface (List.ne_nil_of_mem mem))
    rw [split, List.find?_cons_of_pos (by simpa [key_filled declared] using isMap)] at found
    have two := mapKey.mp isMap
    rw [← Option.some.inj found, arguments_filled, fillers, if_pos two] at given
    obtain ⟨rfl, rfl⟩ : key = k ∧ value = v := by simpa using given
    rw [if_pos two]
  · have mem := List.mem_of_find?_eq_some found
    have first := List.mem_of_head? (head?_interfaces isInterface (List.ne_nil_of_mem mem))
    obtain ⟨ancestor, listed, rfl⟩ := eq_filled_of_mem_interfaces keeps declared fills mem
    have noMap : interface.typeParameters.length ≠ 2 := by
      intro two
      have := List.find?_eq_none.mp missing _ first
      simp [key_filled declared, mapKey.mpr two] at this
    have noMap' : ancestor.typeParameters.length ≠ 2 := by
      have fewer := ((isListed declared).lineage ancestor listed).2.1
      have arity := (isListed declared).parameters
      omega
    rw [arguments_filled, fillers, if_neg noMap', List.head?_cons] at given
    rw [if_neg noMap, any_setKeys_filled keeps declared shape fills first, Option.some.inj given]

/-- The class that stands behind a collection interface of the framework is filled as it is. -/
theorem backingType_filled (keeps : model.KeepsFramework) (declared : interface ∈ definitions)
    (shape : interface.kind = .interfaceType) (fills : Fills item key value interface)
    (h : model.collectionOf? (filled item key value interface)
      (model.interfaces (filled item key value interface)) = some collection) (type : TypeRef) :
    ∃ backing ∈ definitions, interface ∈ lineage backing ∧ Fills item key value backing ∧
      collection.backingType type = filled item key value backing := by
  obtain ⟨-, -, backing, declared', qualifier, kind, name, arity, extended⟩ :=
    backing_of_interface interface declared shape
  refine ⟨backing, declared', extended, ⟨fills.keptItem, arity ▸ fills.entry⟩, ?_⟩
  rw [collection_filled keeps declared shape fills h, filled, NamedType.constructed, qualifier,
    kind, name, fillers, arity, backingOf]
  split
  · rfl
  · by_cases isSet : interface.key ∈ setKeys <;> simp [isSet, Collection.backingType] <;> rfl

end Filled

/-! ## Fitting -/

theorem isInstance_generic {qualifier name : String} {kind : TypeKind} {arguments : List TypeRef}
    (h : ∃ definition ∈ definitions, definition.qualifier = qualifier ∧ definition.name = name ∧
      definition.kind = kind ∧ arguments.length = definition.typeParameters.length) :
    IsInstance (.generic qualifier name kind arguments) := by
  obtain ⟨definition, declared, rfl, rfl, rfl, arity⟩ := h
  exact ⟨definition, declared, arguments, arity, rfl⟩

theorem isInstance_backingType {interfaces : List TypeRef} (interface : type.isInterface = true)
    (h : model.collectionOf? type interfaces = some collection) (declared : TypeRef) :
    IsInstance (collection.backingType declared) := by
  obtain ⟨-, ⟨_, key, value, -, -, rfl⟩ | ⟨-, _, element, -, -, rfl⟩⟩ :=
    collectionOf?_of_isInterface interface h
  · exact isInstance_generic (by simp only [List.length_cons]; decide +kernel)
  · cases interfaces.any (·.key ∈ setKeys)
    · exact isInstance_generic (by simp only [List.length_cons]; decide +kernel)
    · exact isInstance_generic (by simp only [List.length_cons]; decide +kernel)

/-- What is made for a collection fits its type, unless the type is an interface that is not one of
the framework's collection interfaces. -/
theorem assignable_backingType_iff {config : Configuration} (keeps : model.KeepsFramework)
    (classified : (classify model config type).collection = some collection)
    (finite : model.HasFiniteGraph (collection.backingType type))
    (array : type.kind = .arrayType → ∃ element, type.bare = .arrayOf element)
    (kept : ∀ definition ∈ definitions, definition.key = type.key →
      definition.Keeps type.arguments) :
    model.Assignable (collection.backingType type) type ↔
      (type.isInterface = true → IsInstance type.bare) := by
  have found : model.collectionOf? type.bare (model.decidingInterfaces type.bare) =
      some collection := classified
  cases interface : type.isInterface with
  | false =>
    simp only [Bool.false_eq_true, false_implies, iff_true]
    exact .inl (backingType_of_not_isInterface found interface array)
  | true =>
    simp only [forall_const]
    constructor
    · -- All that the class behind an interface is or implements is the framework's.
      have backing := isInstance_backingType interface found type
      rintro (same | implemented)
      · exact same ▸ backing
      · exact isInstance_of_mem_interfaces keeps backing implemented
    · rintro ⟨definition, declared, arguments, arity, same⟩
      have interface : type.bare.isInterface = true := interface
      have shape : definition.kind = .interfaceType := by
        simpa [same, NamedType.constructed, TypeRef.generic, TypeRef.isInterface] using interface
      obtain ⟨item, key, value, fills, filled⟩ := exists_fills declared arity (by
        have given : type.arguments = arguments := congrArg TypeRef.arguments same
        have sameKey : type.key = definition.key :=
          (congrArg TypeRef.key same).trans (NamedType.key_constructed arity)
        exact given ▸ kept definition declared sameKey.symm)
      have noString := (collectionOf?_of_isInterface interface found).1
      rw [decidingInterfaces, if_neg (by simp [noString]), same, filled] at found
      obtain ⟨backing, declared', extended, fills', made⟩ :=
        backingType_filled keeps declared shape fills found type
      rw [made] at finite ⊢
      refine .inr ((mem_interfaces_filled_iff keeps declared' fills' finite).mpr ⟨interface, ?_⟩)
      exact ⟨definition, extended, same.trans filled⟩

instance (source target : TypeRef) : Decidable (model.Assignable source target) :=
  inferInstanceAs (Decidable (_ ∨ _))

instance (reference : TypeRef) : Decidable (model.HasFiniteGraph reference) :=
  inferInstanceAs (Decidable (_ = true))

end Compilation

/-- An interface of sets that is not one of the framework's. -/
def NamedType.tagSet : NamedType where
  name := "ITagSet"
  qualifier := "Shop"
  kind := .interfaceType
  interfaces := [interfaceOf "ISet" [.keyword "string"]]

namespace Compilation

variable {model : Compilation}

/-- A type of the snapshot whose collection does not fit it, though all graphs are finite. -/
def Misfit (model : Compilation) (type : TypeRef) : Prop :=
  ∃ collection ∈ (classify model .default type).collection,
    model.HasFiniteGraph type ∧ model.HasFiniteGraph (collection.backingType type) ∧
      ¬ model.Assignable (collection.backingType type) type

instance (type : TypeRef) : Decidable (model.Misfit type) :=
  inferInstanceAs (Decidable (∃ _ ∈ _, _))

/-- Backing types do not fit an interface of the program itself, where the snapshot declares a class
of the framework without its interfaces, an array reference with a name of its own, and where the
annotation of a type parameter is lost. -/
theorem misfits :
    ({ types := [.tagSet] } : Compilation).Misfit NamedType.tagSet.selfRef ∧
      ({ types := [classDefinition collections "List" item []] } : Compilation).Misfit
        (interfaceOf "IList" [.keyword "int"]) ∧
      ({} : Compilation).Misfit ⟨"Grid", none, .arrayType, [.keyword "int"], false⟩ ∧
      ({} : Compilation).Misfit (interfaceOf "IList" [(TypeRef.typeParameter "T").asNullable]) := by
  decide +kernel

/-- What is made for a list fits it, and what is made for `ITagSet` does not. -/
theorem assignable_backingType_list :
    let model : Compilation := { types := [.tagSet] }
    let list := (interfaceOf "IList" [.keyword "int"]).asNullable
    model.Assignable (listOf (.keyword "int")) list ∧
      ¬ model.Assignable (hashSetOf (.keyword "string")) NamedType.tagSet.selfRef := by
  intro model list
  have keeps : model.KeepsFramework := by
    unfold KeepsFramework
    decide +kernel
  have ofList : (classify model .default list).collection =
      some (.interfaceSequence (.keyword "int") false) := by
    decide +kernel
  have ofSet : (classify model .default NamedType.tagSet.selfRef).collection =
      some (.interfaceSequence (.keyword "string") true) := by
    decide +kernel
  constructor
  · refine (assignable_backingType_iff keeps ofList ?_ ?_ ?_).mpr fun _ => ?_
    · decide +kernel
    · exact fun array => absurd array (by decide)
    · unfold NamedType.Keeps TypeRef.KeptAs
      decide +kernel
    · have : IsInstance (.generic collections "IList" .interfaceType [.keyword "int"]) :=
        isInstance_generic (by decide +kernel)
      exact this
  · refine (assignable_backingType_iff keeps ofSet ?_ ?_ ?_).not.mpr fun fits => ?_
    · decide +kernel
    · exact fun array => absurd array (by decide)
    · unfold NamedType.Keeps TypeRef.KeptAs
      decide +kernel
    · obtain ⟨definition, declared, arguments, -, same⟩ := fits (by decide)
      have other : ∀ definition ∈ definitions, "ITagSet" ≠ definition.name := by decide +kernel
      exact other definition declared (congrArg TypeRef.name same)

end Compilation

end FluentGen
