import FluentGen.Proofs.Agreement
import FluentGen.Proofs.InterfaceGraph
/-!
# The bound on walks

Interfaces are looked up by walks that are cut off at a bound, since a declaration may extend itself
at ever larger types. A walk that comes to an end before it finds the same under every greater bound,
so the bound is of no consequence where all walks end.

## Main definitions
* `Compilation.withLimit`: a snapshot with another bound.
* `GenerationUnit.WalksEnd`, `Compilation.WalksEnd`: no walk is cut off.

## Main statements
* `Compilation.interfaces_withLimit`: a walk that ends finds the same under a greater bound.
* `Compilation.generate_withLimit`: so the same is generated.
-/
namespace FluentGen

namespace Compilation

/-- The snapshot with another bound on walks. -/
def withLimit (model : Compilation) (limit : Nat) : Compilation :=
  { model with walkLimit := limit }

end Compilation

/-- Whether every walk that is taken to generate a unit comes to an end. -/
def GenerationUnit.WalksEnd (model : Compilation) (unit : GenerationUnit) : Prop :=
  ∀ type ∈ unit.classified model, model.HasFiniteGraph type

instance (model : Compilation) (unit : GenerationUnit) : Decidable (unit.WalksEnd model) :=
  inferInstanceAs (Decidable (∀ _ ∈ _, _))

namespace Compilation

/-- Whether every walk that is taken comes to an end. -/
def WalksEnd (model : Compilation) : Prop :=
  ∀ unit ∈ model.units, unit.WalksEnd model

instance (model : Compilation) : Decidable model.WalksEnd :=
  inferInstanceAs (Decidable (∀ _ ∈ _, _))

variable {model : Compilation}

/-- What a walk finds after it came to an end is what it found before. -/
theorem interfacesFrom_of_endsFrom {bound limit : Nat} {seen : List String} {pending : List TypeRef}
    (ends : model.endsFrom bound seen pending = true) (le : bound ≤ limit) :
    model.interfacesFrom limit seen pending = model.interfacesFrom bound seen pending := by
  induction bound generalizing limit seen pending with
  | zero =>
    cases pending with
    | nil => cases limit <;> rfl
    | cons current pending => cases ends
  | succ bound ih =>
    obtain ⟨limit, rfl⟩ : ∃ rest, limit = rest + 1 := ⟨limit - 1, by omega⟩
    have le : bound ≤ limit := Nat.le_of_succ_le_succ le
    cases pending with
    | nil => rfl
    | cons current pending =>
      by_cases visited : current.display ∈ seen
      · simp only [endsFrom, interfacesFrom, if_pos visited] at ends ⊢
        exact ih ends le
      · simp only [endsFrom, interfacesFrom, if_neg visited] at ends ⊢
        rw [ih ends le]

theorem agrees_withLimit (model : Compilation) (limit : Nat) :
    model.Agrees (model.withLimit limit) where
  nullableEnabled := rfl
  assemblyAttributes := rfl
  length_types := rfl
  rel_find? _ := NamedType.Alike.rel_of_eq rfl
  rel_findDeclaration? _ := NamedType.Alike.rel_of_eq rfl

/-- A walk that comes to an end finds the same under every greater bound. -/
theorem interfaces_withLimit {type : TypeRef} (ends : model.HasFiniteGraph type) {limit : Nat}
    (le : model.walkLimit ≤ limit) :
    (model.withLimit limit).interfaces type = model.interfaces type := by
  rw [interfaces, interfaces, ← (model.agrees_withLimit limit).interfacesFrom_eq]
  exact interfacesFrom_of_endsFrom ends le

/-- A unit whose walks end comes out the same under every greater bound. -/
theorem run_withLimit {unit : GenerationUnit} (ends : unit.WalksEnd model) {limit : Nat}
    (le : model.walkLimit ≤ limit) : unit.run (model.withLimit limit) = unit.run model :=
  ((model.agrees_withLimit limit).run_eq_of_interfaces fun type classified =>
    (interfaces_withLimit (ends type classified) le).symm).symm

/-- The same is generated under every greater bound, if all walks end. -/
theorem generate_withLimit (ends : model.WalksEnd) {limit : Nat} (le : model.walkLimit ≤ limit) :
    (model.withLimit limit).generate = model.generate := by
  have outputs : (model.withLimit limit).units.map (·.run (model.withLimit limit)) =
      model.units.map (·.run model) :=
    List.map_congr_left fun unit hunit => run_withLimit (ends unit hunit) le
  rw [generate, generate, outputs]

example :
    let order : NamedType :=
      { name := "Order"
        constructors := [{ accessibility := .publicAccess,
                           parameters := [⟨"tags", .arrayOf (.keyword "string")⟩] }] }
    let builder : NamedType :=
      { name := "OrderBuilder"
        attributes := [⟨"MakeBuilder", [some (.type (.named "" "Order" .classType))], none⟩] }
    let model : Compilation := { types := [order, builder] }
    model.units.map (·.classified model) = [[.arrayOf (.keyword "string")]] ∧ model.WalksEnd := by
  decide +kernel

end Compilation

end FluentGen
