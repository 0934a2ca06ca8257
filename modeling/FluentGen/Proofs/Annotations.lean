import FluentGen.Proofs.Overloads
import FluentGen.Proofs.Substitution
/-!
# References up to annotations

References are compared as if they had no annotations at any depth. What has no annotations is put
into it the way the annotated is, so references that are the same up to annotations stay so when type
parameters are replaced in both.

## Main definitions
* `TypeRef.ComparesUnannotated`: comparisons that go by what is left without annotations.

## Main statements
* `TypeRef.unannotated_substitute`: annotations may be taken away before or after a substitution.
* `TypeRef.comparesUnannotated`: references are compared up to annotations.
-/
namespace FluentGen

namespace TypeRef

/-- Whether a comparison of references goes by what is left of them without annotations. -/
structure ComparesUnannotated (same : TypeRef → TypeRef → Bool) : Prop where
  iff_unannotated : ∀ a b, same a b = true ↔ a.unannotated = b.unannotated
  equivalence : Equivalence fun a b => same a b = true
  substitute : ∀ a b, same a b = true →
    ∀ bindings, same (a.substitute bindings) (b.substitute bindings) = true
  key : ∀ a b, same a b = true → a.key = b.key

theorem unannotatedAll_eq_map (types : List TypeRef) :
    unannotatedAll types = types.map unannotated := by
  induction types with
  | nil => rfl
  | cons type types ih => rw [unannotatedAll, ih, List.map_cons]

theorem unannotated_eq (type : TypeRef) : type.unannotated =
    { type with arguments := type.arguments.map unannotated, nullable := false } := by
  obtain ⟨name, qualifier, kind, arguments, nullable⟩ := type
  rw [unannotated, unannotatedAll_eq_map]

theorem unannotated_withNullable (type : TypeRef) (nullable : Bool) :
    ({ type with nullable } : TypeRef).unannotated = type.unannotated := by
  rw [unannotated_eq, unannotated_eq]

/-- Annotations may be taken away before or after a substitution. -/
theorem unannotated_substitute (type : TypeRef) (bindings : Bindings) :
    (type.substitute bindings).unannotated =
      type.unannotated.substitute (bindings.map (Prod.map id unannotated)) := by
  induction type using induction_arguments with
  | step type ih =>
    have kind : type.unannotated.kind = type.kind := by rw [unannotated_eq]
    have name : type.unannotated.name = type.name := by rw [unannotated_eq]
    have bare : type.unannotated.nullable = false := by rw [unannotated_eq]
    by_cases parameter : type.kind = .typeParameter
    · rw [substitute_of_eq parameter, substitute_of_eq (kind.trans parameter), name, bare,
        Bindings.lookup_map]
      cases bindings.lookup type.name with
      | none => rfl
      | some bound =>
        rw [Option.map_some, unannotated_withNullable]
        cases bound.unannotated
        simp only [Bool.or_false]
    · rw [substitute_of_ne parameter, substitute_of_ne (kind.trans_ne parameter), unannotated_eq,
        unannotated_eq type]
      simp only [List.map_map, mk.injEq, and_true, true_and]
      exact List.map_congr_left ih

theorem key_unannotated (type : TypeRef) : type.unannotated.key = type.key := by
  rw [unannotated_eq, key, key, List.length_map]

/-- References are compared as if they had no annotations. -/
theorem comparesUnannotated : ComparesUnannotated sameType := by
  constructor
  case iff_unannotated => exact sameType_iff
  case equivalence =>
    simp only [sameType_iff]
    exact eq_equivalence.comap unannotated
  case substitute =>
    intro a b same bindings
    rw [sameType_iff] at same ⊢
    rw [unannotated_substitute, unannotated_substitute, same]
  case key =>
    intro a b same
    rw [← key_unannotated a, ← key_unannotated b, (sameType_iff a b).mp same]

/-- A map to lists of annotated items and an annotated map to annotated lists are the same up to
annotations, also once the items have a type. -/
theorem comparesUnannotated_maps :
    let items := typeParameter "T"
    let a := Framework.dictionaryOf (keyword "string") (Framework.listOf items.asNullable)
    let b := (Framework.dictionaryOf (keyword "string") (Framework.listOf items).asNullable).asNullable
    let bindings : Bindings := [("T", (named "Shop" "Item" .classType).asNullable)]
    a ≠ b ∧ a.sameType b = true ∧ a.key = b.key ∧ a.substitute bindings ≠ b.substitute bindings ∧
      (a.substitute bindings).sameType (b.substitute bindings) = true := by
  intro items a b bindings
  have same : a.sameType b = true := (comparesUnannotated.iff_unannotated a b).mpr (by decide)
  exact ⟨by decide, same, comparesUnannotated.key a b same, by decide,
    comparesUnannotated.substitute a b same bindings⟩

end TypeRef

end FluentGen
