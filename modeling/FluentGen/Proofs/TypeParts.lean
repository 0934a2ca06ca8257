import FluentGen.TypeRef
/-!
# Parts of references

A reference is made of references at every depth: itself, its arguments, the arguments of these.
Substitution replaces some parts and keeps the others, so what holds of all parts before it and of
what type parameters stand for holds of all parts after it.

## Main definitions
* `TypeRef.parts`: a reference and everything that it is applied to.
* `TypeRef.Everywhere`: whether all parts have a property.
* `TypeRef.Over`: a reference without type parameters but those of a list.

## Main statements
* `TypeRef.induction_arguments`: induction over the arguments of references.
* `TypeRef.Everywhere.substitute`: what holds of all parts of what is substituted.
-/
namespace FluentGen

namespace TypeRef

mutual
/-- A reference and, at every depth, the references that it is applied to. -/
def parts : TypeRef → List TypeRef
  | ⟨name, qualifier, kind, arguments, nullable⟩ =>
    ⟨name, qualifier, kind, arguments, nullable⟩ :: partsOfAll arguments
/-- The parts of every reference of a list. -/
def partsOfAll : List TypeRef → List TypeRef
  | [] => []
  | type :: types => type.parts ++ partsOfAll types
end

theorem partsOfAll_eq_flatMap (types : List TypeRef) : partsOfAll types = types.flatMap parts := by
  induction types with
  | nil => rfl
  | cons type types ih => rw [partsOfAll, ih, List.flatMap_cons]

/-- What holds of a reference if it holds whenever it holds of the arguments holds of all. -/
theorem induction_arguments {motive : TypeRef → Prop}
    (step : ∀ type, (∀ argument ∈ type.arguments, motive argument) → motive type) :
    ∀ type, motive type
  | ⟨name, qualifier, kind, arguments, nullable⟩ =>
    step _ fun argument h =>
      have : sizeOf argument < sizeOf arguments := List.sizeOf_lt_of_mem h
      induction_arguments step argument
decreasing_by simp only [mk.sizeOf_spec]; omega

/-- Whether all parts of a reference have a property. -/
def Everywhere (P : TypeRef → Prop) (type : TypeRef) : Prop :=
  ∀ part ∈ type.parts, P part

instance (P : TypeRef → Prop) [DecidablePred P] : DecidablePred (Everywhere P) := fun type =>
  inferInstanceAs (Decidable (∀ part ∈ type.parts, P part))

variable {P Q : TypeRef → Prop} {type : TypeRef} {bindings : Bindings}

theorem everywhere_iff :
    type.Everywhere P ↔ P type ∧ ∀ argument ∈ type.arguments, argument.Everywhere P := by
  obtain ⟨name, qualifier, kind, arguments, nullable⟩ := type
  simp only [Everywhere, parts, partsOfAll_eq_flatMap, List.forall_mem_cons, List.mem_flatMap]
  exact and_congr_right fun _ =>
    ⟨fun h argument hargument part hpart => h part ⟨argument, hargument, hpart⟩,
      fun h part ⟨argument, hargument, hpart⟩ => h argument hargument part hpart⟩

theorem Everywhere.mono (h : type.Everywhere P) (weaker : ∀ part, P part → Q part) :
    type.Everywhere Q :=
  fun part hpart => weaker part (h part hpart)

theorem Everywhere.and (h : type.Everywhere P) (h' : type.Everywhere Q) :
    type.Everywhere fun part => P part ∧ Q part :=
  fun part hpart => ⟨h part hpart, h' part hpart⟩

theorem substitute_of_ne (h : type.kind ≠ .typeParameter) :
    type.substitute bindings =
      { type with arguments := type.arguments.map (substitute bindings) } := by
  obtain ⟨name, qualifier, kind, arguments, nullable⟩ := type
  simp [substitute, h]

theorem substitute_of_eq (h : type.kind = .typeParameter) :
    type.substitute bindings =
      match bindings.lookup type.name with
      | some bound => { bound with nullable := bound.nullable || type.nullable }
      | none => type := by
  obtain ⟨name, qualifier, kind, arguments, nullable⟩ := type
  obtain rfl : kind = .typeParameter := h
  cases found : bindings.lookup name <;> simp [substitute, found]

/-- Substitution keeps what finds the declaration behind a reference. -/
theorem key_substitute (h : type.kind ≠ .typeParameter) :
    (type.substitute bindings).key = type.key := by
  rw [substitute_of_ne h, key, key, List.length_map]

theorem isInterface_substitute (h : type.kind ≠ .typeParameter) :
    (type.substitute bindings).isInterface = type.isInterface := by
  rw [substitute_of_ne h, isInterface, isInterface]

theorem substitute_nil (type : TypeRef) : type.substitute [] = type := by
  induction type using induction_arguments with
  | step type ih =>
    by_cases parameter : type.kind = .typeParameter
    · simp [substitute_of_eq parameter]
    · rw [substitute_of_ne parameter, List.map_congr_left ih, List.map_id']
      cases type
      rfl

/-- What is substituted is made of what the type parameters stand for, and of the other parts with
arguments of their own. -/
theorem Everywhere.substitute (h : type.Everywhere Q)
    (ofParameter : ∀ part, Q part → part.kind = .typeParameter →
      (part.substitute bindings).Everywhere P)
    (ofOther : ∀ part arguments, Q part → part.kind ≠ .typeParameter →
      P { part with arguments }) :
    (type.substitute bindings).Everywhere P := by
  induction type using induction_arguments with
  | step type ih =>
    obtain ⟨head, onArguments⟩ := everywhere_iff.mp h
    by_cases parameter : type.kind = .typeParameter
    · exact ofParameter type head parameter
    · rw [substitute_of_ne parameter, everywhere_iff]
      refine ⟨ofOther type _ head parameter, ?_⟩
      intro substituted hsubstituted
      obtain ⟨argument, hargument, rfl⟩ := List.mem_map.mp hsubstituted
      exact ih argument hargument (onArguments argument hargument)

theorem Everywhere.withNullable (h : type.Everywhere P)
    (ignored : ∀ part nullable, P part → P { part with nullable }) (nullable : Bool) :
    ({ type with nullable } : TypeRef).Everywhere P := by
  obtain ⟨head, onArguments⟩ := everywhere_iff.mp h
  exact everywhere_iff.mpr ⟨ignored type nullable head, onArguments⟩

/-- Whether every type parameter in a reference is one of `names`. -/
def Over (names : List String) : TypeRef → Prop :=
  Everywhere fun part => part.kind = .typeParameter → part.name ∈ names

/-- Whether no name in a reference has a backquote, which keys have before an arity. -/
def PlainlyNamed : TypeRef → Prop :=
  Everywhere fun part => '`' ∉ part.name.toList

/-- Whether no type parameter in a reference is applied to anything. -/
def Unapplied : TypeRef → Prop :=
  Everywhere fun part => part.kind = .typeParameter → part.arguments = []

/-- A property that is preserved where parameters are bound and does not depend on arguments or
annotations holds of what is substituted, as long as no type parameter has arguments. -/
theorem Everywhere.substitute_of_unapplied (h : type.Everywhere Q) (unapplied : type.Unapplied)
    (ofBound : ∀ name bound, bindings.lookup name = some bound → bound.Everywhere P)
    (ofUnbound : ∀ part, Q part → part.kind = .typeParameter → bindings.lookup part.name = none →
      P part)
    (ofOther : ∀ part arguments, Q part → part.kind ≠ .typeParameter → P { part with arguments })
    (ignored : ∀ part nullable, P part → P { part with nullable }) :
    (type.substitute bindings).Everywhere P := by
  refine (h.and unapplied).substitute ?_ fun part arguments h => ofOther part arguments h.1
  intro part ⟨head, noArguments⟩ parameter
  rw [substitute_of_eq parameter]
  cases found : bindings.lookup part.name with
  | some bound => exact (ofBound _ _ found).withNullable ignored _
  | none =>
    exact everywhere_iff.mpr ⟨ofUnbound part head parameter found, by simp [noArguments parameter]⟩

instance (names : List String) (type : TypeRef) : Decidable (type.Over names) :=
  inferInstanceAs (Decidable (Everywhere _ type))

instance (type : TypeRef) : Decidable type.PlainlyNamed :=
  inferInstanceAs (Decidable (Everywhere _ type))

instance (type : TypeRef) : Decidable type.Unapplied :=
  inferInstanceAs (Decidable (Everywhere _ type))

end TypeRef

end FluentGen
