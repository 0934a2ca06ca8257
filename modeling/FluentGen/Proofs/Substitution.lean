import FluentGen.Proofs.FrameworkGraph
import FluentGen.Proofs.Rendering
import FluentGen.Proofs.TypeParameters
/-!
# Substitution

Substituting twice is substituting once: what the first substitution binds has the second one done to
it. Up to kinds, which texts leave out, the result depends on the text of what is substituted only,
as long as the text tells type parameters from other types.

## Main definitions
* `TypeRef.UsesOnly`: a reference whose type parameters are among given names, without annotations.
* `TypeRef.IsSpelledLike`: a part that has the text of a type parameter.

## Main statements
* `TypeRef.substitute_substitute`: substitution composes.
* `TypeRef.substitute_zip_substitute`: arguments in the place of parameters are substituted in place.
* `TypeRef.unkinded_substitute`: substitution respects texts.
-/
namespace FluentGen

namespace Bindings

/-- The bindings that do what substituting `first` and then `second` does. -/
def andThen (first second : Bindings) : Bindings :=
  first.map (Prod.map id (TypeRef.substitute second)) ++ second

theorem lookup_map (bindings : Bindings) (f : TypeRef → TypeRef) (name : String) :
    List.lookup name (bindings.map (Prod.map id f)) = (bindings.lookup name).map f := by
  induction bindings with
  | nil => rfl
  | cons binding others ih =>
    obtain ⟨bound, type⟩ := binding
    by_cases same : name = bound
    · simp [same]
    · simpa [List.lookup_cons, beq_eq_false_iff_ne.mpr same] using ih

theorem lookup_andThen (first second : Bindings) (name : String) :
    (first.andThen second).lookup name =
      ((first.lookup name).map (TypeRef.substitute second)).or (second.lookup name) := by
  rw [andThen, List.lookup_append, lookup_map]

end Bindings

namespace TypeRef

variable {type : TypeRef} {bindings bindings' : Bindings} {names : List String}
  {arguments : List TypeRef}

/-! ## Composition -/

theorem substitute_withNullable (type : TypeRef) (bindings : Bindings) (nullable : Bool) :
    ({ type with nullable := type.nullable || nullable } : TypeRef).substitute bindings =
      { type.substitute bindings with
        nullable := (type.substitute bindings).nullable || nullable } := by
  obtain ⟨name, qualifier, kind, arguments, own⟩ := type
  by_cases parameter : kind = .typeParameter
  · cases found : bindings.lookup name <;> simp [substitute, parameter, found, Bool.or_assoc]
  · simp [substitute, parameter]

/-- Substituting twice is substituting once, where what is bound first has been substituted. -/
theorem substitute_substitute (type : TypeRef) (bindings bindings' : Bindings) :
    (type.substitute bindings).substitute bindings' =
      type.substitute (bindings.andThen bindings') := by
  induction type using induction_arguments with
  | step type ih =>
    by_cases parameter : type.kind = .typeParameter
    · rw [substitute_of_eq parameter, substitute_of_eq parameter, Bindings.lookup_andThen]
      cases found : bindings.lookup type.name with
      | none =>
        change type.substitute bindings' = _
        rw [substitute_of_eq parameter]
        rfl
      | some bound => exact substitute_withNullable bound bindings' type.nullable
    · have head : ({ type with arguments := type.arguments.map (substitute bindings) } :
          TypeRef).kind ≠ .typeParameter := parameter
      rw [substitute_of_ne parameter, substitute_of_ne head, substitute_of_ne parameter]
      simp only [List.map_map, mk.injEq, and_true, true_and]
      exact List.map_congr_left ih

/-- Only what is bound to the type parameters in a reference matters. -/
theorem substitute_congr (same : type.Everywhere fun part => part.kind = .typeParameter →
    bindings.lookup part.name = bindings'.lookup part.name) :
    type.substitute bindings = type.substitute bindings' := by
  induction type using induction_arguments with
  | step type ih =>
    obtain ⟨here, onArguments⟩ := everywhere_iff.mp same
    by_cases parameter : type.kind = .typeParameter
    · rw [substitute_of_eq parameter, substitute_of_eq parameter, here parameter]
    · rw [substitute_of_ne parameter, substitute_of_ne parameter,
        List.map_congr_left fun argument h => ih argument h (onArguments argument h)]

/-! ## Arguments in the place of parameters -/

/-- Whether every type parameter in a reference is one of `names`, without an annotation. -/
def UsesOnly (names : List String) : TypeRef → Prop :=
  Everywhere fun part => part.kind = .typeParameter → part ∈ names.map typeParameter

instance (names : List String) (type : TypeRef) : Decidable (type.UsesOnly names) :=
  inferInstanceAs (Decidable (Everywhere _ type))

theorem exists_lookup_zip (count : arguments.length = names.length) {name : String}
    (h : name ∈ names) : ∃ argument ∈ arguments, (names.zip arguments).lookup name = some argument := by
  cases found : (names.zip arguments).lookup name with
  | some argument => exact ⟨argument, (List.of_mem_zip (mem_of_lookup found)).2, rfl⟩
  | none =>
    obtain ⟨i, hi, rfl⟩ := List.getElem_of_mem h
    have mem := getElem_mem_zip hi (count ▸ hi : i < arguments.length)
    simpa using List.lookup_eq_none_iff.mp found _ mem

/-- A type parameter becomes one of the arguments. -/
theorem substitute_zip_mem (count : arguments.length = names.length)
    (h : type ∈ names.map typeParameter) : type.substitute (names.zip arguments) ∈ arguments := by
  obtain ⟨name, hname, rfl⟩ := List.mem_map.mp h
  obtain ⟨argument, hargument, found⟩ := exists_lookup_zip count hname
  rwa [substitute_typeParameter, found, Option.getD_some]

/-- Arguments take the places of the type parameters in order. -/
theorem map_substitute_zip (apart : names.Nodup) (count : arguments.length = names.length) :
    (names.map typeParameter).map (substitute (names.zip arguments)) = arguments := by
  refine List.ext_getElem (by simp [count]) fun i _ hi => ?_
  have declared : i < names.length := count ▸ hi
  have mem := getElem_mem_zip declared hi
  rw [List.getElem_map, List.getElem_map, substitute_typeParameter,
    Bindings.lookup_eq fun _ => eq_of_mem_zip apart mem, if_pos mem, Option.getD_some]

/-- What holds of all parts of the arguments and where arguments are replaced holds of all parts of
what a reference becomes over the arguments. -/
theorem Everywhere.substitute_zip {P Q : TypeRef → Prop} (h : type.Everywhere Q)
    (uses : type.UsesOnly names) (count : arguments.length = names.length)
    (onArguments : ∀ argument ∈ arguments, argument.Everywhere P)
    (ofOther : ∀ part replaced, Q part → part.kind ≠ .typeParameter →
      replaced.length = part.arguments.length → P { part with arguments := replaced }) :
    (type.substitute (names.zip arguments)).Everywhere P := by
  induction type using induction_arguments with
  | step type ih =>
    obtain ⟨here, onOwn⟩ := everywhere_iff.mp h
    obtain ⟨used, usesOwn⟩ := everywhere_iff.mp uses
    by_cases parameter : type.kind = .typeParameter
    · exact onArguments _ (substitute_zip_mem count (used parameter))
    · rw [substitute_of_ne parameter]
      refine everywhere_iff.mpr ⟨ofOther type _ here parameter (List.length_map _), ?_⟩
      refine List.forall_mem_map.mpr fun argument mem => ?_
      exact ih argument mem (onOwn argument mem) (usesOwn argument mem)

/-- Substituting what a reference becomes over arguments is substituting the arguments. -/
theorem substitute_zip_substitute (uses : type.UsesOnly names)
    (count : arguments.length = names.length) (bindings : Bindings) :
    (type.substitute (names.zip arguments)).substitute bindings =
      type.substitute (names.zip (arguments.map (substitute bindings))) := by
  rw [substitute_substitute]
  refine substitute_congr (uses.mono fun part used parameter => ?_)
  obtain ⟨name, hname, rfl⟩ := List.mem_map.mp (used parameter)
  have count' : (arguments.map (substitute bindings)).length = names.length := by
    rw [List.length_map, count]
  obtain ⟨argument, -, found⟩ := exists_lookup_zip count' hname
  have zipped : Bindings.andThen (names.zip arguments) bindings =
      names.zip (arguments.map (substitute bindings)) ++ bindings := by
    rw [Bindings.andThen, List.zip_map_right]
  rw [zipped, List.lookup_append]
  change ((names.zip (arguments.map (substitute bindings))).lookup name).or _ = _
  rw [found, Option.some_or]
  exact found.symm

/-! ## Texts -/

mutual
/-- The text leaves kinds out. -/
theorem render_unkinded (style : NameStyle) : ∀ type : TypeRef,
    type.unkinded.render style = type.render style
  | ⟨name, qualifier, kind, [], nullable⟩ => by
    cases kind <;> simp [unkinded, unkindedAll, render]
  | ⟨name, qualifier, kind, first :: others, nullable⟩ => by
    have head := render_unkinded style first
    have tail := renderOthers_unkinded style others
    cases kind <;> simp [unkinded, unkindedAll, render, head, tail]
theorem renderOthers_unkinded (style : NameStyle) : ∀ types : List TypeRef,
    renderOthers style (unkindedAll types) = renderOthers style types
  | [] => rfl
  | type :: types => by
    rw [unkindedAll, renderOthers, renderOthers, render_unkinded style type,
      renderOthers_unkinded style types]
end

theorem display_eq_of_unkinded_eq {a b : TypeRef} (same : a.unkinded = b.unkinded) :
    a.display = b.display := by
  rw [display, display, ← render_unkinded, same, render_unkinded]

theorem key_eq_of_unkinded_eq {a b : TypeRef} (same : a.unkinded = b.unkinded) : a.key = b.key := by
  rw [unkinded_eq, unkinded_eq] at same
  simp only [mk.injEq] at same
  obtain ⟨name, qualifier, -, arguments, -⟩ := same
  have arity : a.arguments.length = b.arguments.length := by simpa using congrArg List.length arguments
  rw [key, key, name, qualifier, arity]

/-- Whether a part has the text of one of the type parameters `names`. -/
def IsSpelledLike (names : List String) (part : TypeRef) : Prop :=
  part.qualifier = none ∧ part.arguments = [] ∧ part.name ∈ names

instance (names : List String) (part : TypeRef) : Decidable (part.IsSpelledLike names) :=
  inferInstanceAs (Decidable (_ ∧ _))

/-- Whether only type parameters in a reference have the texts of the type parameters `names`. -/
def TellsApart (names : List String) : TypeRef → Prop :=
  Everywhere fun part => part.IsSpelledLike names → part.kind = .typeParameter

instance (names : List String) (type : TypeRef) : Decidable (type.TellsApart names) :=
  inferInstanceAs (Decidable (Everywhere _ type))

/-- What is put in the place of type parameters matters up to kinds. -/
theorem unkinded_substitute_congr
    (same : ∀ name, (bindings.lookup name).map unkinded = (bindings'.lookup name).map unkinded) :
    (type.substitute bindings).unkinded = (type.substitute bindings').unkinded := by
  induction type using induction_arguments with
  | step type ih =>
    by_cases parameter : type.kind = .typeParameter
    · have here := same type.name
      rw [substitute_of_eq parameter, substitute_of_eq parameter]
      cases found : bindings.lookup type.name with
      | none =>
        rw [found, Option.map_none, Eq.comm, Option.map_eq_none_iff] at here
        rw [here]
      | some bound =>
        rw [found, Option.map_some, Eq.comm, Option.map_eq_some_iff] at here
        obtain ⟨bound', found', alike⟩ := here
        rw [found']
        rw [unkinded_eq, unkinded_eq] at alike ⊢
        simp only [mk.injEq] at alike ⊢
        obtain ⟨name, qualifier, array, own, nullable⟩ := alike
        exact ⟨name.symm, qualifier.symm, array.symm, own.symm, by rw [nullable]⟩
    · rw [substitute_of_ne parameter, substitute_of_ne parameter, unkinded_eq, unkinded_eq]
      simp only [List.map_map, mk.injEq, and_true, true_and]
      exact List.map_congr_left ih

/-- What has the text of a type parameter is one, where type parameters are told apart. -/
theorem kind_of_unkinded_eq {a b : TypeRef} (used : a ∈ names.map typeParameter)
    (apart : b.IsSpelledLike names → b.kind = .typeParameter) (same : a.unkinded = b.unkinded) :
    b.kind = .typeParameter := by
  obtain ⟨name, hname, rfl⟩ := List.mem_map.mp used
  rw [unkinded_eq, unkinded_eq] at same
  simp only [mk.injEq] at same
  obtain ⟨sameName, qualifier, -, own, -⟩ := same
  exact apart ⟨qualifier.symm, List.map_eq_nil_iff.mp own.symm, sameName ▸ hname⟩

/-- References of one text have one text after substitution, where the text of a type parameter is
that of type parameters only. -/
theorem unkinded_substitute {a b : TypeRef} (uses : a.UsesOnly names) (uses' : b.UsesOnly names)
    (apart : a.TellsApart names) (apart' : b.TellsApart names) (same : a.unkinded = b.unkinded) :
    (a.substitute bindings).unkinded = (b.substitute bindings).unkinded := by
  induction a using induction_arguments generalizing b with
  | step a ih =>
    obtain ⟨used, usesOwn⟩ := everywhere_iff.mp uses
    obtain ⟨used', usesOwn'⟩ := everywhere_iff.mp uses'
    obtain ⟨here, apartOwn⟩ := everywhere_iff.mp apart
    obtain ⟨here', apartOwn'⟩ := everywhere_iff.mp apart'
    have shape := same
    rw [unkinded_eq, unkinded_eq] at shape
    simp only [mk.injEq] at shape
    obtain ⟨name, qualifier, array, own, nullable⟩ := shape
    by_cases parameter : a.kind = .typeParameter
    · -- Both are the same type parameter.
      have parameter' := kind_of_unkinded_eq (used parameter) here' same
      obtain ⟨_, -, rfl⟩ := List.mem_map.mp (used parameter)
      obtain ⟨_, -, rfl⟩ := List.mem_map.mp (used' parameter')
      obtain rfl : _ = _ := name
      rfl
    · have parameter' : b.kind ≠ .typeParameter := fun h =>
        parameter (kind_of_unkinded_eq (used' h) here same.symm)
      rw [substitute_of_ne parameter, substitute_of_ne parameter']
      refine unkinded_congr name qualifier (by grind) ?_ nullable
      simp only [List.map_map]
      exact map_eq_map_of_map_eq own fun argument h argument' h' =>
        ih argument h (usesOwn argument h) (usesOwn' argument' h') (apartOwn argument h)
          (apartOwn' argument' h')

end TypeRef

end FluentGen
