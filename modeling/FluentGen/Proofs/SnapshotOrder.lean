import FluentGen.Proofs.Accounting
import FluentGen.Proofs.OutputNames
import Mathlib.Data.List.Find
import Mathlib.Data.List.Nodup
/-!
# The order of a snapshot

In which order a snapshot lists its types is of no consequence, as long as no two of them can be
meant by the same reference. Only the numbers that go into file names depend on the order, and there
are none if the builders have different names.

## Main definitions
* `Compilation.outputsOf`: what comes of the units of a class.
* `Compilation.asksForBuilder`: the classes that a builder is asked for.

## Main statements
* `Compilation.generate_perm`: the outputs of every class, and under different names the files of
  the whole run, do not depend on the order.
-/
namespace FluentGen

/-! ## Files under their preferred names -/

/-- The file of an output under the name that it gets if that name is free. -/
def UnitOutput.file? (output : UnitOutput) : Option GeneratedFile :=
  output.source.map fun text => { name := FileNames.preferred output.builder, text }

/-- Whether two outputs never compete for the name of a file. -/
def UnitOutput.Apart (a b : UnitOutput) : Prop :=
  a.source ≠ none → b.source ≠ none → a.builder ≠ b.builder

theorem Report.files_ofOutputs_of_pairwise {names : FileNames} {outputs : List UnitOutput}
    (apart : outputs.Pairwise UnitOutput.Apart)
    (free : ∀ output ∈ outputs, output.source ≠ none →
      FileNames.preferred output.builder ∉ names.claimed) :
    (ofOutputs names outputs).files = outputs.filterMap UnitOutput.file? := by
  induction outputs generalizing names with
  | nil => rfl
  | cons output outputs ih =>
    obtain ⟨first, others⟩ := List.pairwise_cons.mp apart
    cases source : output.source with
    | none =>
      have rest := @ih names others fun other hother => free other (.tail _ hother)
      simp [ofOutputs, source, UnitOutput.file?, rest]
    | some text =>
      have here := free output List.mem_cons_self (by simp [source])
      have rest := @ih (names.claim output.builder).2 others fun other hother some => by
        rw [FileNames.claim_of_not_mem here, List.mem_cons, not_or, FileNames.preferred_inj]
        exact ⟨(first other hother (by simp [source]) some).symm, free other (.tail _ hother) some⟩
      rw [FileNames.claim_of_not_mem here] at rest
      simp [ofOutputs, source, UnitOutput.file?, FileNames.claim_of_not_mem here, rest]

/-! ## The outputs of a class -/

namespace GenerationUnit

variable {model : Compilation}

theorem builder_run (unit : GenerationUnit) : (unit.run model).builder = unit.builder.name := by
  unfold run
  split
  next output generated =>
    unfold generate at generated
    split at generated
    · cases generated
    · obtain ⟨_, _, entity, -, -, -, rfl⟩ := generateBuilder_eq_ok_iff.mp generated
      split <;> rfl
  next => rfl

end GenerationUnit

namespace NamedType

variable {builder : NamedType}

theorem map_run_units (model : Compilation) (builder : NamedType) (position : Nat) :
    (builder.units position).map (·.run model) = (builder.units 0).map (·.run model) := by
  unfold units
  cases builder.applications with
  | nil => rfl
  | cons first others =>
    simp only [List.map_cons, List.map_map]
    rfl

/-- No class has two units that end in a file. -/
theorem pairwise_run_units (model : Compilation) (builder : NamedType) :
    ((builder.units 0).map (·.run model)).Pairwise UnitOutput.Apart := by
  unfold units
  cases builder.applications with
  | nil => exact .nil
  | cons first others =>
    -- Only the first unit can end in a file; the others come too late.
    have late : ∀ output ∈ (others.map fun application =>
        (⟨0, builder, application, some first⟩ : GenerationUnit)).map (·.run model),
        output.source = none := by
      intro output houtput
      obtain ⟨unit, hunit, rfl⟩ := List.mem_map.mp houtput
      obtain ⟨application, -, rfl⟩ := List.mem_map.mp hunit
      exact (GenerationUnit.run_of_shadowedBy rfl).1
    refine List.pairwise_cons.mpr ⟨fun output houtput _ some => ?_, ?_⟩
    · exact absurd (late output houtput) some
    · exact List.pairwise_of_forall_mem_list fun a ha _ _ some => absurd (late a ha) some

/-- Whether a builder is asked for on the class. -/
def asksForBuilder (builder : NamedType) : Bool :=
  builder.attributes.any (·.isNamed makeBuilder)

theorem asksForBuilder_of_mem_units {unit : GenerationUnit} {position : Nat}
    (h : unit ∈ builder.units position) : builder.asksForBuilder = true := by
  have happlication : unit.application ∈ builder.applications := by
    rw [← application_units builder position]
    exact List.mem_map_of_mem h
  have happlied : unit.application.applied ∈ builder.attributes.filter (·.isNamed makeBuilder) := by
    rw [← applied_applications]
    exact List.mem_map_of_mem happlication
  obtain ⟨hmem, named⟩ := List.mem_filter.mp happlied
  exact List.any_eq_true.mpr ⟨_, hmem, named⟩

end NamedType

namespace Compilation

variable {model : Compilation}

/-- What comes of the units of a class. -/
def outputsOf (model : Compilation) (builder : NamedType) : List UnitOutput :=
  (model.units.filter (·.builder = builder)).map (·.run model)

theorem filter_units_eq_unitsAt {builder : NamedType} {position : Nat} (nodup : model.types.Nodup)
    (declared : model.types[position]? = some builder) :
    model.units.filter (·.builder = builder) = model.unitsAt position := by
  refine List.filter_congr fun unit hunit => ?_
  have there := getElem?_types_of_mem_units hunit
  rw [Bool.eq_iff_iff, decide_eq_true_iff, beq_iff_eq]
  constructor
  · intro same
    rw [same, ← declared] at there
    have inRange : position < model.types.length := (List.getElem?_eq_some_iff.mp declared).1
    exact ((List.getElem?_inj inRange nodup).mp there.symm).symm
  · intro same
    rw [same, declared] at there
    exact (Option.some.inj there).symm

theorem outputsOf_eq {builder : NamedType} (nodup : model.types.Nodup)
    (h : builder ∈ model.types) :
    model.outputsOf builder = (builder.units 0).map (·.run model) := by
  obtain ⟨position, declared⟩ := List.getElem?_of_mem h
  rw [outputsOf, filter_units_eq_unitsAt nodup declared, unitsAt_eq, declared, Option.elim_some,
    NamedType.map_run_units]

theorem map_run_units (model : Compilation) :
    model.units.map (·.run model) =
      model.types.flatMap fun builder => (builder.units 0).map (·.run model) := by
  calc
    _ = model.types.zipIdx.flatMap fun entry => (entry.1.units 0).map (·.run model) := by
      rw [units, List.map_flatMap]
      exact List.flatMap_congr fun entry _ => NamedType.map_run_units model entry.1 entry.2
    _ = (model.types.zipIdx.map Prod.fst).flatMap fun builder =>
        (builder.units 0).map (·.run model) := by rw [List.flatMap_map]
    _ = _ := by rw [List.zipIdx_map_fst]

theorem pairwise_run_units
    (nodup : ((model.types.filter (·.asksForBuilder)).map (·.name)).Nodup) :
    (model.units.map (·.run model)).Pairwise UnitOutput.Apart := by
  rw [map_run_units]
  refine List.pairwise_flatMap.mpr ⟨fun builder _ => builder.pairwise_run_units model, ?_⟩
  refine (List.pairwise_filter.mp (List.pairwise_map.mp nodup)).imp ?_
  intro a b differ x hx y hy _ _
  obtain ⟨unit, hunit, rfl⟩ := List.mem_map.mp hx
  obtain ⟨unit', hunit', rfl⟩ := List.mem_map.mp hy
  rw [GenerationUnit.builder_run, GenerationUnit.builder_run,
    (NamedType.position_of_mem_units hunit).2, (NamedType.position_of_mem_units hunit').2]
  exact differ (NamedType.asksForBuilder_of_mem_units hunit)
    (NamedType.asksForBuilder_of_mem_units hunit')

theorem files_generate_of_nodup
    (nodup : ((model.types.filter (·.asksForBuilder)).map (·.name)).Nodup) :
    model.generate.files = (model.units.map (·.run model)).filterMap UnitOutput.file? :=
  Report.files_ofOutputs_of_pairwise (pairwise_run_units nodup) (by simp)

/-! ## Permuted snapshots -/

/-- Snapshots agree if they list the same types, each with a key and a name of its own. -/
theorem agrees_of_perm {types : List NamedType} (perm : model.types.Perm types)
    (keys : (model.types.map (·.key)).Nodup)
    (names : (model.types.map fun type => (type.qualifier, type.name)).Nodup) :
    model.Agrees { model with types } := by
  have found (key : String) : model.find? key = find? { model with types } key := by
    refine List.find?_eq_find?_of_perm perm fun a ha b hb => ?_
    refine List.inj_on_of_nodup_map keys ha.1 hb.1 ?_
    exact (beq_iff_eq.mp ha.2).trans (beq_iff_eq.mp hb.2).symm
  refine ⟨rfl, rfl, perm.length_eq, fun key => NamedType.Alike.rel_of_eq (found key),
    fun reference => ?_⟩
  -- An entity is looked up by its key and, failing that, by its name.
  refine NamedType.Alike.rel_of_eq ?_
  have named : (model.types.find? fun type =>
      type.name == reference.name && type.qualifier == reference.qualifier.getD "") =
      types.find? fun type =>
        type.name == reference.name && type.qualifier == reference.qualifier.getD "" := by
    refine List.find?_eq_find?_of_perm perm fun a ha b hb => ?_
    refine List.inj_on_of_nodup_map names ha.1 hb.1 ?_
    simp_all
  rw [Entity.findDeclaration?, Entity.findDeclaration?, resolve?, resolve?, found, named]

/-- The outputs of every class do not depend on the order of the types. Neither do the texts and
reports of a run but for their order, nor the names of files if those of the builders differ. And where
all walks end, nothing depends on how soon they would be cut off. -/
theorem generate_perm {types : List NamedType} (perm : model.types.Perm types)
    (keys : (model.types.map (·.key)).Nodup)
    (names : (model.types.map fun type => (type.qualifier, type.name)).Nodup) :
    (∀ builder ∈ model.types,
      outputsOf { model with types } builder = model.outputsOf builder) ∧
    (generate { model with types }).diagnostics.Perm model.generate.diagnostics ∧
    ((generate { model with types }).files.map (·.text)).Perm (model.generate.files.map (·.text)) ∧
    (((model.types.filter (·.asksForBuilder)).map (·.name)).Nodup →
      (generate { model with types }).files.Perm model.generate.files) ∧
    (model.WalksEnd → ∀ limit ≥ model.walkLimit, (model.withLimit limit).generate = model.generate) := by
  have agrees := agrees_of_perm perm keys names
  have outputs : ((units { model with types }).map (·.run { model with types })).Perm
      (model.units.map (·.run model)) := by
    rw [map_run_units, map_run_units]
    simp only [agrees.run_eq rfl]
    exact (perm.flatMap_right _).symm
  refine ⟨fun builder hbuilder => ?_, ?_, ?_, fun apart => ?_, fun ends _ => generate_withLimit ends⟩
  · have nodup : model.types.Nodup := .of_map _ keys
    rw [outputsOf_eq nodup hbuilder,
      @outputsOf_eq { model with types } _ (perm.nodup_iff.mp nodup) (perm.subset hbuilder)]
    exact List.map_congr_left fun unit _ => (agrees.run_eq rfl unit).symm
  · rw [generate, generate, Report.diagnostics_ofOutputs, Report.diagnostics_ofOutputs]
    exact outputs.flatMap_right _
  · rw [generate, generate, Report.texts_ofOutputs, Report.texts_ofOutputs]
    exact outputs.filterMap _
  · have apart' : ((types.filter (·.asksForBuilder)).map (·.name)).Nodup :=
      ((perm.filter _).map _).nodup_iff.mp apart
    rw [files_generate_of_nodup apart, @files_generate_of_nodup { model with types } apart']
    exact outputs.filterMap _

/-- A class and the class of its builder. -/
def orders : List NamedType :=
  [{ name := "Order", qualifier := "Shop" },
    { name := "OrderBuilder", qualifier := "Shop"
      attributes := [⟨"MakeBuilder", [some (.type (.named "Shop" "Order" .classType))], none⟩] }]

theorem generate_perm_reverse :
    ((orders.map (·.key)).Nodup ∧
      (orders.map fun type => (type.qualifier, type.name)).Nodup ∧
      ((orders.filter (·.asksForBuilder)).map (·.name)).Nodup) ∧
    (∀ builder ∈ orders,
      outputsOf { types := orders.reverse } builder = outputsOf { types := orders } builder) ∧
    (generate { types := orders.reverse }).files.Perm (generate { types := orders }).files := by
  have keys : (orders.map (·.key)).Nodup := by decide
  have names : (orders.map fun type => (type.qualifier, type.name)).Nodup := by decide
  have apart : ((orders.filter (·.asksForBuilder)).map (·.name)).Nodup := by decide +kernel
  have same := @generate_perm { types := orders } _ (List.reverse_perm orders).symm keys names
  exact ⟨⟨keys, names, apart⟩, same.1, same.2.2.2.1 apart⟩

end Compilation

end FluentGen
