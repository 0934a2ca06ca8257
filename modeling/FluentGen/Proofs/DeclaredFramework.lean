import FluentGen.Classification
import Mathlib.Data.List.Perm.Subperm
/-!
# The framework's collections as declared types

The definitions of the framework stand in for declarations that a snapshot lacks. A snapshot that
lists them among its own types, after all others, is therefore seen in the same way.

## Main definitions
* `Compilation.withFramework`: the snapshot with the framework's collections among its types.

## Main statements
* `Compilation.inheritsAddFrom_eq_of_le`: a walk along base classes ends before its bound.
* `Compilation.classify_withFramework`: interfaces and classifications stay as they are.
-/
namespace FluentGen

namespace Compilation

variable {model : Compilation}

/-- The snapshot with the framework's collections behind its own types. -/
def withFramework (model : Compilation) : Compilation :=
  { model with types := model.types ++ Framework.definitions }

theorem find?_withFramework (key : String) :
    model.withFramework.find? key = (model.find? key).or (Framework.find? key) :=
  List.find?_append

/-- What the snapshot declares itself still comes first, and the rest is the framework's. -/
theorem lookup?_withFramework : model.withFramework.lookup? = model.lookup? := by
  funext reference
  rw [lookup?, lookup?, resolve?, resolve?, find?_withFramework, Option.or_assoc, Option.or_self]

theorem mem_of_lookup? {reference : TypeRef} {declaration : NamedType}
    (h : model.lookup? reference = some declaration) :
    declaration ∈ model.types ++ Framework.definitions := by
  rw [lookup?, Option.or_eq_some_iff] at h
  rcases h with declared | ⟨-, known⟩
  · exact List.mem_append_left _ (mem_of_find? declared)
  · exact List.mem_append_right _ (List.mem_of_find?_eq_some known)

theorem key_of_lookup? {reference : TypeRef} {declaration : NamedType}
    (h : model.lookup? reference = some declaration) : declaration.key = reference.key := by
  rw [lookup?, Option.or_eq_some_iff] at h
  rcases h with declared | ⟨-, known⟩
  · exact key_of_find? declared
  · simpa using List.find?_some known

/-! ## Interfaces -/

theorem interfacesFrom_withFramework (bound : Nat) (seen : List String) (pending : List TypeRef) :
    model.withFramework.interfacesFrom bound seen pending =
      model.interfacesFrom bound seen pending := by
  have supertypes : model.withFramework.supertypes = model.supertypes := by
    funext reference
    rw [Compilation.supertypes, Compilation.supertypes, lookup?_withFramework]
  induction bound generalizing seen pending with
  | zero => rfl
  | succ bound ih =>
    cases pending with
    | nil => rfl
    | cons current pending => simp only [interfacesFrom, supertypes, ih]

/-! ## Base classes -/

/-- A walk along base classes visits no key twice, so it ends before the bound if the bound exceeds
the number of declarations that it can meet. -/
theorem inheritsAddFrom_eq_of_le {bound bound' : Nat} (le : bound ≤ bound') {visited : List String}
    {type : NamedType} (apart : visited.Nodup)
    (met : visited ⊆ (model.types ++ Framework.definitions).map (·.key))
    (declared : type ∈ model.types ++ Framework.definitions)
    (enough : model.types.length + Framework.definitions.length < bound + visited.length) :
    model.inheritsAddFrom bound visited type = model.inheritsAddFrom bound' visited type := by
  -- The invariant is that the visited keys are distinct and those of declarations.
  induction bound generalizing bound' visited type with
  | zero =>
    have few : visited.length ≤ model.types.length + Framework.definitions.length := by
      simpa using (apart.subperm met).length_le
    omega
  | succ bound ih =>
    obtain ⟨bound', rfl⟩ : ∃ n, bound' = n + 1 := ⟨bound' - 1, by omega⟩
    unfold inheritsAddFrom
    by_cases seen : type.key ∈ visited
    · simp only [if_pos seen]
    · simp only [if_neg seen]
      cases next : type.baseType.bind model.lookup? with
      | none => rfl
      | some base =>
        have known : base ∈ model.types ++ Framework.definitions := by
          obtain ⟨reference, -, found⟩ := Option.bind_eq_some_iff.mp next
          exact mem_of_lookup? found
        have rest : model.inheritsAddFrom bound (type.key :: visited) base =
            model.inheritsAddFrom bound' (type.key :: visited) base := by
          apply ih (by omega) (List.nodup_cons.mpr ⟨seen, apart⟩) _ known
          · rw [List.length_cons]
            omega
          · exact List.cons_subset.mpr ⟨List.mem_map_of_mem declared, met⟩
        simp only [rest]

theorem inheritsAdd_withFramework {type : NamedType}
    (declared : type ∈ model.types ++ Framework.definitions) :
    model.withFramework.inheritsAdd type = model.inheritsAdd type := by
  have walk (bound : Nat) (visited : List String) (start : NamedType) :
      model.withFramework.inheritsAddFrom bound visited start =
        model.inheritsAddFrom bound visited start := by
    induction bound generalizing visited start with
    | zero => rfl
    | succ bound ih => simp only [inheritsAddFrom, lookup?_withFramework, ih]
  rw [inheritsAdd, inheritsAdd, walk]
  -- Only the bounds differ: the longer list of types gives the walk more than it needs.
  have more : model.withFramework.types.length =
      model.types.length + Framework.definitions.length := List.length_append
  refine (inheritsAddFrom_eq_of_le ?_ List.nodup_nil (List.nil_subset _) declared ?_).symm
  · omega
  · rw [List.length_nil]
    omega

theorem isAppendable_withFramework (type : TypeRef) :
    model.withFramework.isAppendable type = model.isAppendable type := by
  rw [isAppendable, isAppendable, lookup?_withFramework]
  cases found : model.lookup? type with
  | none => rw [Option.any_none, Option.any_none]
  | some declaration =>
    rw [Option.any_some, Option.any_some, inheritsAdd_withFramework (mem_of_lookup? found)]

/-- Listing the framework's collections among the types of a snapshot changes no interfaces and no
classification, whichever of them the snapshot declares itself. -/
theorem classify_withFramework (model : Compilation) :
    model.withFramework.interfaces = model.interfaces ∧
      ∀ config, classify model.withFramework config = classify model config := by
  have interfaces : model.withFramework.interfaces = model.interfaces := by
    funext reference
    exact interfacesFrom_withFramework _ _ _
  refine ⟨interfaces, fun config => ?_⟩
  have deciding : model.withFramework.decidingInterfaces = model.decidingInterfaces := by
    funext type
    rw [decidingInterfaces, decidingInterfaces, interfaces]
  funext type
  simp only [classify, deciding, collectionOf?, lookup?_withFramework, isAppendable_withFramework]

end Compilation

end FluentGen
