import FluentGen.Proofs.InterfaceSearch
/-!
# Instances of generic declarations

A reference to a generic declaration puts an argument in the place of each type parameter, in all
places at once. Bindings leave out an argument that is the parameter it stands for. Nothing is lost
by that as long as the argument is the mere parameter; an annotation on it is lost.

## Main definitions
* `TypeRef.Instantiates`: the i-th argument is in the place of the i-th parameter, everywhere.
* `NamedType.InstantiatesExactly`: substituting what a reference binds does just that.

## Main statements
* `NamedType.instantiates_substitute`: substituting does it if no annotation is left out.
* `NamedType.instantiatesExactly_iff`: and only then.
-/
namespace FluentGen

namespace TypeRef

/-- What comes of a type when arguments are put in the place of type parameters, all at once. -/
inductive Instantiates (parameters : List String) (arguments : List TypeRef) :
    TypeRef → TypeRef → Prop where
  /-- The argument in the place of a parameter is annotated if it is so itself or the parameter is
  where it occurs. -/
  | parameter {occurrence argument : TypeRef} {i : Nat} :
      occurrence.kind = .typeParameter → parameters[i]? = some occurrence.name →
      arguments[i]? = some argument →
      Instantiates parameters arguments occurrence
        { argument with nullable := argument.nullable || occurrence.nullable }
  | applied {type : TypeRef} {replaced : List TypeRef} :
      type.kind ≠ .typeParameter →
      List.Forall₂ (Instantiates parameters arguments) type.arguments replaced →
      Instantiates parameters arguments type { type with arguments := replaced }

variable {type occurrence argument result : TypeRef} {parameters : List String}
  {arguments : List TypeRef} {bindings : Bindings}

/-- Distinct names have one argument each. -/
theorem Instantiates.eq_of_mem_zip (h : Instantiates parameters arguments occurrence result)
    (apart : parameters.Nodup) (parameter : occurrence.kind = .typeParameter)
    (mem : (occurrence.name, argument) ∈ parameters.zip arguments) :
    result = { argument with nullable := argument.nullable || occurrence.nullable } := by
  cases h with
  | @parameter _ other i _ name found =>
    have here : (occurrence.name, other) ∈ parameters.zip arguments :=
      List.mem_iff_getElem?.mpr ⟨i, List.getElem?_zip_eq_some.mpr ⟨name, found⟩⟩
    rw [FluentGen.eq_of_mem_zip apart mem here]
  | applied other => exact absurd parameter other

/-- An annotation where a type parameter occurs is added to what replaces the parameter. -/
theorem substitute_eq_withNullable (parameter : type.kind = .typeParameter) :
    type.substitute bindings = { type.bare.substitute bindings with
      nullable := (type.bare.substitute bindings).nullable || type.nullable } := by
  obtain ⟨name, qualifier, kind, arguments, nullable⟩ := type
  obtain rfl : kind = .typeParameter := parameter
  cases found : bindings.lookup name <;> simp [substitute, bare, found]

end TypeRef

namespace NamedType

/-- Whether the bindings of a reference put each argument in the place of its parameter, in all
types over the type parameters of the declaration, and so give its arguments back from its own
reference. -/
structure InstantiatesExactly (declaration : NamedType) (reference : TypeRef) : Prop where
  types : ∀ type : TypeRef, type.PlainParameters → type.Over declaration.parameterNames →
    TypeRef.Instantiates declaration.parameterNames reference.arguments type
      (type.substitute (declaration.bindingsFor reference))
  selfRef : (declaration.selfRef.substitute (declaration.bindingsFor reference)).arguments =
    reference.arguments

variable {declaration : NamedType} {reference type : TypeRef}

section Exactly

variable (names : declaration.parameterNames.Nodup)
  (arity : reference.arguments.length = declaration.typeParameters.length)
include names arity

/-- Substituting the bindings of a reference is putting its arguments in the place of the type
parameters if those that stand for themselves are not annotated. -/
theorem instantiates_substitute (keeps : declaration.Keeps reference.arguments)
    (plain : type.PlainParameters) (inScope : type.Over declaration.parameterNames) :
    TypeRef.Instantiates declaration.parameterNames reference.arguments type
      (type.substitute (declaration.bindingsFor reference)) := by
  induction type using TypeRef.induction_arguments with
  | step type ih =>
    obtain ⟨bare, onArguments⟩ := TypeRef.everywhere_iff.mp plain
    obtain ⟨declared, inScope⟩ := TypeRef.everywhere_iff.mp inScope
    by_cases parameter : type.kind = .typeParameter
    · obtain ⟨i, hi, name⟩ := List.getElem_of_mem (declared parameter)
      have hi' : i < reference.arguments.length := by simpa [parameterNames, arity] using hi
      have mem : (type.name, reference.arguments[i]) ∈
          declaration.parameterNames.zip reference.arguments :=
        name ▸ getElem_mem_zip hi hi'
      have replaced := substitute_parameter names mem (keeps _ mem)
      rw [TypeRef.substitute_eq_withNullable parameter, bare parameter, replaced]
      exact .parameter parameter (List.getElem?_eq_some_iff.mpr ⟨hi, name⟩)
        (List.getElem?_eq_getElem hi')
    · rw [TypeRef.substitute_of_ne parameter]
      refine .applied parameter (List.forall₂_map_right_iff.mpr (List.forall₂_same.mpr ?_))
      exact fun argument h => ih argument h (onArguments argument h) (inScope argument h)

theorem arguments_selfRef_substitute (kind : declaration.kind ≠ .typeParameter)
    (keeps : declaration.Keeps reference.arguments) :
    (declaration.selfRef.substitute (declaration.bindingsFor reference)).arguments =
      reference.arguments := by
  have count : reference.arguments.length = declaration.parameterNames.length := by
    rw [arity, parameterNames, List.length_map]
  rw [selfRef, TypeRef.substitute_generic kind, TypeRef.generic]
  refine List.ext_getElem (by simp [arity]) fun i hi hi' => ?_
  have mem : (declaration.parameterNames[i], reference.arguments[i]) ∈
      declaration.parameterNames.zip reference.arguments :=
    getElem_mem_zip (count ▸ hi') hi'
  simpa [parameterNames] using substitute_parameter names mem (keeps _ mem)

/-- Instances are exact if and only if every argument that is the type parameter it stands for is the
mere parameter, without an annotation. -/
theorem instantiatesExactly_iff (kind : declaration.kind ≠ .typeParameter) :
    declaration.InstantiatesExactly reference ↔ declaration.Keeps reference.arguments := by
  constructor
  · rintro ⟨exact, -⟩ ⟨name, argument⟩ mem parameter same
    obtain rfl : argument.name = name := same
    -- The parameter itself is left unbound, so it stays what it is.
    have unbound : (declaration.bindingsFor reference).lookup argument.name = none :=
      List.lookup_eq_none_iff.mpr fun pair h => by
        obtain ⟨declared, different⟩ := mem_bindingsFor_iff.mp h
        refine bne_iff_ne.mpr ?_
        intro same
        obtain rfl : pair.2 = argument := eq_of_mem_zip names mem (same ▸ declared)
        exact different ⟨parameter, same⟩
    have inScope : (TypeRef.typeParameter argument.name).Over declaration.parameterNames :=
      TypeRef.everywhere_iff.mpr ⟨fun _ => (List.of_mem_zip mem).1, nofun⟩
    have plain : (TypeRef.typeParameter argument.name).PlainParameters :=
      TypeRef.everywhere_iff.mpr ⟨fun _ => rfl, nofun⟩
    have replaced := (exact _ plain inScope).eq_of_mem_zip names rfl mem
    rw [TypeRef.substitute_typeParameter, unbound, Option.getD_none] at replaced
    refine Eq.symm (replaced.trans ?_)
    cases argument
    simp [TypeRef.typeParameter, TypeRef.named, TypeRef.generic]
  · exact fun keeps => ⟨fun _ => instantiates_substitute names arity keeps,
      arguments_selfRef_substitute names arity kind keeps⟩

end Exactly

/-- Arguments that are type parameters of the declaration, but stand for others, are in place; one
that stands for itself may be so if it has no annotation. -/
theorem instantiatesExactly_iff_permuted :
    let declaration : NamedType :=
      { name := "Map", qualifier := "Shop",
        typeParameters := [{ name := "K" }, { name := "V" }, { name := "T" }] }
    let reference := declaration.constructed
      [(TypeRef.typeParameter "V").asNullable, .typeParameter "K", .typeParameter "T"]
    declaration.parameterNames.Nodup ∧
      reference.arguments.length = declaration.typeParameters.length ∧
      declaration.kind ≠ .typeParameter ∧ declaration.InstantiatesExactly reference := by
  intro declaration reference
  have names : declaration.parameterNames.Nodup := by decide
  have arity : reference.arguments.length = declaration.typeParameters.length := rfl
  have kind : declaration.kind ≠ .typeParameter := by decide
  have keeps : declaration.Keeps reference.arguments := by
    unfold Keeps TypeRef.KeptAs
    decide
  exact ⟨names, arity, kind, (instantiatesExactly_iff names arity kind).mpr keeps⟩

/-- Where the base class is over an annotated type parameter that its own one is called like, the
annotation is lost, and with it that of inherited properties. -/
theorem not_instantiatesExactly_annotated :
    let base := TypeRef.generic "Shop" "Base" .classType [(TypeRef.typeParameter "T").asNullable]
    let model := Entity.boxed base ["T"] (.typeParameter "T")
    (∃ declaration ∈ model.types, declaration.key = base.key ∧ declaration.parameterNames.Nodup ∧
      base.arguments.length = declaration.typeParameters.length ∧
      declaration.kind ≠ .typeParameter ∧ ¬ declaration.InstantiatesExactly base) ∧
    ∃ entity, Entity.resolve model (.named "Shop" "Box" .classType) = .ok entity ∧
      entity.memberTypes = [.typeParameter "T"] := by
  intro base model
  refine ⟨⟨_, .tail _ (.head _), ?_, ?_, ?_, ?_, fun exactly => ?_⟩, _, rfl, by decide⟩
  · decide
  · decide
  · decide
  · decide
  · exact absurd exactly.selfRef (by decide)

end NamedType

end FluentGen
