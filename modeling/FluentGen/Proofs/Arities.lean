import FluentGen.Proofs.TypeParameters
/-!
# Arities of entities

A reference to an entity finds the declaration of its key. If there is none, it finds any declaration
of its namespace and name, whatever the number of type parameters, which is meant for references that
leave the type arguments out. A reference with type arguments comes to that as well, and then loses
them.

## Main definitions
* `IsIdentifier`: a name that keys can be read back from.
* `NamedType.IsCalled`, `NamedType.Declares`: a declaration of the name of a reference, or of its name
  and arity.
* `Entity.RespectsArity`: a reference with type arguments means declarations of its arity only.

## Main statements
* `definitionKey_inj`: the key of a definition tells its namespace, its name and its arity.
* `Entity.respectsArity_iff`: arities are respected where one is declared or the name is not.
-/
namespace FluentGen

/-! ## Keys of identifiers -/

/-- Whether a name has neither a dot, which keys have behind a namespace, nor a backquote, which they
have before an arity. -/
def IsIdentifier (name : String) : Prop :=
  '.' ∉ name.toList ∧ '`' ∉ name.toList

instance (name : String) : Decidable (IsIdentifier name) :=
  inferInstanceAs (Decidable (_ ∧ _))

/-- The last dot of a qualified identifier stands behind the namespace. -/
theorem qualifier_and_name_inj {qualifier qualifier' name name' : String} (h : '.' ∉ name.toList)
    (h' : '.' ∉ name'.toList)
    (same : (if qualifier.isEmpty then "" else qualifier ++ ".") ++ name =
      (if qualifier'.isEmpty then "" else qualifier' ++ ".") ++ name') :
    qualifier = qualifier' ∧ name = name' := by
  have characters := congrArg String.toList same
  by_cases unqualified : qualifier.isEmpty <;> by_cases unqualified' : qualifier'.isEmpty
  · rw [if_pos unqualified, if_pos unqualified', String.empty_append, String.empty_append] at same
    exact ⟨(String.isEmpty_iff.mp unqualified).trans (String.isEmpty_iff.mp unqualified').symm, same⟩
  · rw [if_pos unqualified, if_neg unqualified'] at characters
    exact absurd (by simp at characters; simp [characters]) h
  · rw [if_neg unqualified, if_pos unqualified'] at characters
    exact absurd (by simp at characters; simp [← characters]) h'
  · rw [if_neg unqualified, if_neg unqualified'] at same characters
    simp only [String.toList_append, List.append_assoc] at characters
    have names := (eq_of_append_cons_eq h h' characters).2
    obtain rfl := String.toList_injective names
    have qualified := (String.append_left_inj _).mp same
    exact ⟨(String.append_left_inj _).mp qualified, rfl⟩

/-- The key of a definition tells its namespace, its name and its number of type parameters. -/
theorem definitionKey_inj {qualifier qualifier' name name' : String} {arity arity' : Nat}
    (h : IsIdentifier name) (h' : IsIdentifier name') :
    definitionKey qualifier name arity = definitionKey qualifier' name' arity' ↔
      (qualifier = qualifier' ∧ name = name') ∧ arity = arity' := by
  constructor
  · intro same
    obtain rfl := arity_of_definitionKey h.2 h'.2 same
    exact ⟨qualifier_and_name_inj h.1 h'.1 ((String.append_left_inj _).mp same), rfl⟩
  · rintro ⟨⟨rfl, rfl⟩, rfl⟩
    rfl

/-! ## Declarations of a name -/

namespace NamedType

/-- Whether the declaration has the namespace and the name of a reference. -/
def IsCalled (declaration : NamedType) (reference : TypeRef) : Prop :=
  declaration.qualifier = reference.qualifier.getD "" ∧ declaration.name = reference.name

/-- Whether the declaration has a type parameter for each argument of a reference, too. -/
def Declares (declaration : NamedType) (reference : TypeRef) : Prop :=
  declaration.IsCalled reference ∧
    declaration.typeParameters.length = reference.arguments.length

variable {declaration : NamedType} {reference : TypeRef}

theorem key_eq_iff_declares (h : IsIdentifier declaration.name) (h' : IsIdentifier reference.name) :
    declaration.key = reference.key ↔ declaration.Declares reference :=
  definitionKey_inj h h'

end NamedType

namespace Entity

variable {model : Compilation} {declaration : NamedType} {reference : TypeRef}

/-- Whether a reference with type arguments means a declaration with as many type parameters, and is
refused where there is none. -/
structure RespectsArity (model : Compilation) (reference : TypeRef) : Prop where
  /-- The shape is that of a declaration of this arity, and its own reference has the arguments. -/
  declared : ∀ entity, resolve model reference = .ok entity →
    (∃ declaration ∈ model.types, declaration.Declares reference) ∧
      entity.type.arguments = reference.arguments
  refused : (∀ declaration ∈ model.types, ¬ declaration.Declares reference) →
    resolve model reference = .error (.unresolvedType reference.display)
  /-- Only a reference without arguments finds a declaration of another key. -/
  fallback : model.resolve? reference = none → ∀ declaration,
    findDeclaration? model reference = some declaration → reference.arguments = []

/-- The reference of a shape has the given arguments only if there is one for each parameter. -/
theorem arguments_referenceFor :
    (referenceFor declaration reference).arguments = reference.arguments ↔
      declaration.typeParameters.length = reference.arguments.length := by
  unfold referenceFor
  split
  next arity => exact iff_of_true rfl arity.symm
  next arity =>
    refine iff_of_false (fun same => arity ?_) (fun same => arity same.symm)
    rw [← same, NamedType.selfRef, TypeRef.generic, List.length_map]

/-- What is found by the key of a reference with proper names is of its name and arity. -/
theorem resolve?_eq_none_iff (names : ∀ declaration ∈ model.types, IsIdentifier declaration.name)
    (name : IsIdentifier reference.name) :
    model.resolve? reference = none ↔
      ∀ declaration ∈ model.types, ¬ declaration.Declares reference := by
  simp only [Compilation.resolve?, Compilation.find?, List.find?_eq_none, beq_iff_eq]
  exact forall₂_congr fun declaration h => not_congr (declaration.key_eq_iff_declares (names _ h) name)

/-- A declaration is found exactly if there is one of the name. -/
theorem findDeclaration?_eq_none_iff
    (names : ∀ declaration ∈ model.types, IsIdentifier declaration.name)
    (name : IsIdentifier reference.name) :
    findDeclaration? model reference = none ↔
      ∀ declaration ∈ model.types, ¬ declaration.IsCalled reference := by
  rw [findDeclaration?, Option.or_eq_none_iff, resolve?_eq_none_iff names name, List.find?_eq_none]
  simp only [Bool.and_eq_true, beq_iff_eq, and_comm (b := _ = Option.getD _ _)]
  exact and_iff_right_of_imp fun absent declaration h declares => absent declaration h declares.1

/-- Arities are respected exactly if the snapshot declares a type of the name and arity, or none of
the name at all. -/
theorem respectsArity_iff (names : ∀ declaration ∈ model.types, IsIdentifier declaration.name)
    (name : IsIdentifier reference.name) :
    RespectsArity model reference ↔
      (∃ declaration ∈ model.types, declaration.Declares reference) ∨
        ∀ declaration ∈ model.types, ¬ declaration.IsCalled reference := by
  constructor
  · intro respects
    cases found : findDeclaration? model reference with
    | none => exact .inr ((findDeclaration?_eq_none_iff names name).mp found)
    | some declaration =>
      exact .inl (respects.declared _ (resolve_eq_ok_iff.mpr ⟨declaration, found, rfl⟩)).1
  · rintro (declared | absent)
    · have here : model.resolve? reference ≠ none := by
        rw [ne_eq, resolve?_eq_none_iff names name]
        exact fun none => declared.elim fun declaration h => none declaration h.1 h.2
      refine ⟨fun entity resolved => ⟨declared, ?_⟩, fun none => ?_, fun none => absurd none here⟩
      · obtain ⟨declaration, found, rfl⟩ := resolve_eq_ok_iff.mp resolved
        obtain found | ⟨none, -⟩ := Option.or_eq_some_iff.mp found
        · have known := names _ (Compilation.mem_of_find? found)
          have key := Compilation.key_of_find? found
          exact arguments_referenceFor.mpr ((declaration.key_eq_iff_declares known name).mp key).2
        · exact absurd none here
      · exact absurd ((resolve?_eq_none_iff names name).mpr none) here
    · have unresolved := (findDeclaration?_eq_none_iff names name).mpr absent
      refine ⟨fun entity resolved => ?_, fun _ => ?_, fun _ declaration found => ?_⟩
      · obtain ⟨declaration, found, -⟩ := resolve_eq_ok_iff.mp resolved
        cases unresolved.symm.trans found
      · rw [resolve, unresolved]
      · cases unresolved.symm.trans found

/-- A class `Box` for each of the given lists of type parameters. -/
def boxesOver (parameters : List (List String)) : Compilation where
  types := parameters.map fun names =>
    { name := "Box", qualifier := "Shop", typeParameters := names.map ({ name := · }) }

/-- A box of two types. -/
def boxOfTwo : TypeRef :=
  .generic "Shop" "Box" .classType [.keyword "int", .keyword "string"]

/-- Of two classes of one name, the one with the arity of the reference is found. -/
theorem respectsArity_iff_boxes :
    (∀ declaration ∈ (boxesOver [["T"], ["K", "V"]]).types, IsIdentifier declaration.name) ∧
    IsIdentifier boxOfTwo.name ∧ RespectsArity (boxesOver [["T"], ["K", "V"]]) boxOfTwo := by
  have names : ∀ declaration ∈ (boxesOver [["T"], ["K", "V"]]).types,
      IsIdentifier declaration.name := by decide
  have name : IsIdentifier boxOfTwo.name := by decide
  refine ⟨names, name, (respectsArity_iff names name).mpr (.inl ?_)⟩
  exact ⟨_, .tail _ (.head _), ⟨by decide, by decide⟩, by decide⟩

/-- Where only a class with another number of type parameters is declared, that one is found, and
the type arguments are lost. -/
theorem not_respectsArity_box : ¬ RespectsArity (boxesOver [["T"]]) boxOfTwo := fun respects =>
  absurd (respects.declared _ rfl).2 (by decide)

end Entity

end FluentGen
