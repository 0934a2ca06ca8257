import FluentGen.Proofs.Accounting
/-!
# Isolation of builders

Attributes are read where they are applied and nowhere else: whatever is applied to one class, and
whether or not its units fail, all other classes get the same files and reports.

## Main definitions
* `Compilation.withAttributes`: other attributes on the class at a position.
* `Compilation.outcomesAt`: the units of a class with what comes of them.

## Main statements
* `Compilation.outcomesAt_withAttributes`: the outcomes of all other classes stay as they are.
-/
namespace FluentGen

/-! ## Declarations that are alike -/

theorem forall₂_modify {α : Type} {r : α → α → Prop} {f : α → α} (same : ∀ a, r a a)
    (changed : ∀ a, r a (f a)) (items : List α) (index : Nat) :
    List.Forall₂ r items (items.modify index f) := by
  induction items generalizing index with
  | nil => simp
  | cons first others ih =>
    cases index with
    | zero => exact .cons (changed first) (List.forall₂_same.mpr fun other _ => same other)
    | succ index => exact .cons (same first) (ih index)

theorem rel_find?_of_forall₂ {α : Type} {r : α → α → Prop} {p : α → Bool} {items items' : List α}
    (h : List.Forall₂ r items items') (respects : ∀ {a b}, r a b → p a = p b) :
    Option.Rel r (items.find? p) (items'.find? p) := by
  induction h with
  | nil => exact .none
  | @cons a b _ _ related _ ih =>
    rw [List.find?_cons, List.find?_cons, respects related]
    cases p b with
    | true => exact .some related
    | false => exact ih

namespace Compilation

variable {model model' : Compilation}

/-- Snapshots agree if they differ in nothing but attributes of types. -/
theorem agrees_of_forall₂ (nullable : model.nullableEnabled = model'.nullableEnabled)
    (assembly : model.assemblyAttributes = model'.assemblyAttributes)
    (alike : List.Forall₂ NamedType.Alike model.types model'.types) : model.Agrees model' where
  nullableEnabled := nullable
  assemblyAttributes := assembly
  length_types := alike.length_eq
  rel_find? key := by
    refine rel_find?_of_forall₂ alike ?_
    rintro a _ ⟨attributes, rfl⟩
    rfl
  rel_findDeclaration? reference := by
    have exact : Option.Rel NamedType.Alike (model.find? reference.key)
        (model'.find? reference.key) := by
      refine rel_find?_of_forall₂ alike ?_
      rintro a _ ⟨attributes, rfl⟩
      rfl
    have named : Option.Rel NamedType.Alike
        (model.types.find? fun type =>
          type.name == reference.name && type.qualifier == reference.qualifier.getD "")
        (model'.types.find? fun type =>
          type.name == reference.name && type.qualifier == reference.qualifier.getD "") := by
      refine rel_find?_of_forall₂ alike ?_
      rintro a _ ⟨attributes, rfl⟩
      rfl
    unfold Entity.findDeclaration? resolve?
    generalize model.find? reference.key = here, model'.find? reference.key = there at exact ⊢
    cases exact with
    | some alike => exact .some alike
    | none => simpa using named

/-! ## Other attributes on one class -/

/-- The snapshot with other attributes on the class at a position. -/
def withAttributes (model : Compilation) (position : Nat) (attributes : List Attribute) :
    Compilation :=
  { model with types := model.types.modify position fun type => { type with attributes } }

/-- The units of the class at a position, each with what comes of it. -/
def outcomesAt (model : Compilation) (position : Nat) : List (GenerationUnit × UnitOutput) :=
  (model.unitsAt position).map fun unit => (unit, unit.run model)

/-- The report of a run that goes through the outcomes of `count` classes in order. -/
def reportOf (count : Nat) (outcomes : Nat → List (GenerationUnit × UnitOutput)) : Report :=
  Report.ofOutputs {} ((List.range count).flatMap fun position => (outcomes position).map (·.2))

theorem agrees_withAttributes (model : Compilation) (position : Nat)
    (attributes : List Attribute) : model.Agrees (model.withAttributes position attributes) :=
  agrees_of_forall₂ rfl rfl
    (forall₂_modify .refl (fun _ => ⟨attributes, rfl⟩) model.types position)

theorem unitsAt_withAttributes {position other : Nat} (apart : other ≠ position)
    (attributes : List Attribute) :
    (model.withAttributes position attributes).unitsAt other = model.unitsAt other := by
  rw [unitsAt_eq, unitsAt_eq, withAttributes, List.getElem?_modify_ne _ _ apart.symm]

theorem generate_eq_reportOf (model : Compilation) :
    model.generate = reportOf model.types.length model.outcomesAt := by
  rw [generate, units_eq_flatMap_unitsAt, List.map_flatMap]
  simp only [reportOf, outcomesAt, List.map_map, Function.comp_def]

/-- Attributes on one class change the outcomes of no other class, and a report is made of the
outcomes of all classes in order. Where the walks for a class end, its outcomes do not depend on how soon
they would be cut off. -/
theorem outcomesAt_withAttributes (model : Compilation) (position : Nat)
    (attributes : List Attribute) :
    (∀ other ≠ position,
      (model.withAttributes position attributes).outcomesAt other = model.outcomesAt other) ∧
    model.generate = reportOf model.types.length model.outcomesAt ∧
    (model.withAttributes position attributes).generate =
      reportOf model.types.length (model.withAttributes position attributes).outcomesAt ∧
    ∀ other, (∀ unit ∈ model.unitsAt other, unit.WalksEnd model) → ∀ limit ≥ model.walkLimit,
      (model.withLimit limit).outcomesAt other = model.outcomesAt other := by
  refine ⟨fun other apart => ?_, generate_eq_reportOf model, ?_, fun other ends limit le => ?_⟩
  · -- The other class has the same units, and each is run over a snapshot that answers alike.
    rw [outcomesAt, outcomesAt, unitsAt_withAttributes apart]
    refine List.map_congr_left fun unit _ => ?_
    rw [(agrees_withAttributes model position attributes).run_eq rfl]
  · rw [generate_eq_reportOf, (agrees_withAttributes model position attributes).length_types]
  · exact List.map_congr_left fun unit hunit => by rw [run_withLimit (ends unit hunit) le]

/-- Two builders of one class. -/
def siblings : Compilation where
  types :=
    [{ name := "Order", qualifier := "Shop" },
      { name := "OrderBuilder", qualifier := "Shop"
        attributes := [⟨"MakeBuilder", [some (.type (.named "Shop" "Order" .classType))], none⟩] },
      { name := "OtherBuilder", qualifier := "Shop"
        attributes := [⟨"MakeBuilder", [some (.type (.named "Shop" "Order" .classType))], none⟩] }]

/-- One builder gets what it gets when the other names no entity. -/
theorem outcomesAt_withAttributes_sibling :
    (siblings.outcomesAt 1).length = 1 ∧
      (siblings.withAttributes 2 [⟨"MakeBuilder", [], none⟩]).outcomesAt 1 =
        siblings.outcomesAt 1 := by
  refine ⟨?_, (outcomesAt_withAttributes siblings 2 _).1 1 (by decide)⟩
  rw [outcomesAt, List.length_map]
  decide +kernel

end Compilation

end FluentGen
