import FluentGen.Proofs.Accounting
import FluentGen.Proofs.Members
import Mathlib.Data.List.Nodup
/-!
# Generated parts of one class

A generated file adds a part to a class. Of the applications to one entry of the snapshot only the
first can end in a file, but entries are not compared with each other. When a run declares the
generated members of every class once can be read off the first applications of the entries.

## Main definitions
* `ClassHeader`, `GeneratedPart`: what tells classes apart, and what a unit generates.
* `Compilation.parts`: what a run generates.
* `Compilation.GeneratesOnce`: a run declares the generated members of every class once.
* `Compilation.EntriesApart`: no two entries of the snapshot generate the same class.

## Main statements
* `Compilation.texts_generate`: files hold the parts of a run.
* `Compilation.generatesOnce_iff`: when every class is generated once.
-/
namespace FluentGen

/-- What a declaration says which class it is a part of. -/
structure ClassHeader where
  qualifier : String
  name : String
  arity : Nat
  deriving DecidableEq, Repr

/-- The class that an entry of the snapshot is about. -/
def NamedType.header (type : NamedType) : ClassHeader :=
  ⟨type.qualifier, type.name, type.typeParameters.length⟩

/-- A part of a builder class to generate. -/
structure GeneratedPart where
  builder : NamedType
  entity : Entity
  config : Configuration
  deriving DecidableEq, Repr

namespace GeneratedPart

/-- The class that the part declares; its type parameters are those that the entity leaves open. -/
def header (part : GeneratedPart) : ClassHeader :=
  ⟨part.builder.qualifier, part.builder.name, part.entity.openParameters.length⟩

/-- The text of the part. -/
def text (model : Compilation) (part : GeneratedPart) : String :=
  (GeneratedClass.of model part.entity part.config part.builder).sourceText

end GeneratedPart

/-- What an application generates, if there is anything to generate. -/
def generatedPart? (model : Compilation) (builder : NamedType) (a : Attribute) :
    Option GeneratedPart :=
  a.entity?.bind fun reference =>
    (Configuration.forUnit model builder a).toOption.bind fun config =>
      (Entity.resolve model reference).toOption.bind fun entity =>
        if entity.isAbstract then none else some ⟨builder, entity, config⟩

/-- What a unit generates: nothing if it comes too late. -/
def GenerationUnit.part? (model : Compilation) (unit : GenerationUnit) : Option GeneratedPart :=
  if unit.shadowedBy.isSome then none
  else generatedPart? model unit.builder unit.application.applied

/-- What the first application to a class generates. -/
def NamedType.part? (model : Compilation) (builder : NamedType) : Option GeneratedPart :=
  builder.applications.head?.bind fun first => generatedPart? model builder first.applied

/-- Whether the first application to `later` fails if `earlier` is another entry for its class that
has an application. -/
def NamedType.GivesWay (model : Compilation) (earlier later : NamedType) : Prop :=
  later.header = earlier.header → earlier.applications ≠ [] →
    ∀ first ∈ later.applications.head?, ∃ error,
      generateBuilder model later first.applied = .error error

/-- Whether the unit ends without a file, in a report that it failed. -/
def UnitOutput.Failed (output : UnitOutput) : Prop :=
  output.source = none ∧
    ∃ diagnostic, output.diagnostics = [diagnostic] ∧ diagnostic.kind = .unitFailed

namespace Compilation

/-- What all units generate, in order. -/
def parts (model : Compilation) : List GeneratedPart :=
  model.units.filterMap (·.part? model)

/-- Whether every class is generated once. -/
structure GeneratesOnce (model : Compilation) : Prop where
  /-- No two files declare the same class. -/
  declares : (model.parts.map (·.header)).Nodup
  /-- All applications to a class but the first fail. -/
  refuses : model.units.Pairwise fun earlier later =>
    later.builder.header = earlier.builder.header → (later.run model).Failed

/-- Whether no two entries of the snapshot generate the same class. -/
structure EntriesApart (model : Compilation) : Prop where
  declares : (model.types.filterMap (·.part? model)).Pairwise fun earlier later =>
    earlier.header ≠ later.header
  refuses : model.types.Pairwise (NamedType.GivesWay model)

end Compilation

/-! ## One unit -/

variable {model : Compilation} {builder : NamedType} {position : Nat}

theorem source_generateBuilder (a : Attribute) :
    (generateBuilder model builder a).toOption.bind (·.source) =
      (generatedPart? model builder a).map (·.text model) := by
  unfold generateBuilder generatedPart?
  cases a.entity? with
  | none => rfl
  | some reference =>
    cases Configuration.forUnit model builder a with
    | error error => rfl
    | ok config =>
      cases resolved : Entity.resolve model reference with
      | error error => simp [bind, Except.bind, Except.toOption, resolved]
      | ok entity =>
        cases abstract : entity.isAbstract <;>
          simp [bind, Except.bind, pure, Except.pure, Except.toOption, resolved, abstract,
            GeneratedPart.text, GeneratedClass.text_synthesize]

theorem not_failed_of_generateBuilder {a : Attribute} {output : UnitOutput}
    (h : generateBuilder model builder a = .ok output) : ¬ output.Failed := by
  obtain ⟨_, _, entity, -, -, -, rfl⟩ := generateBuilder_eq_ok_iff.mp h
  rintro ⟨source, diagnostic, diagnostics, kind⟩
  cases abstract : entity.isAbstract with
  | true =>
    rw [abstract, if_pos rfl, List.cons.injEq] at diagnostics
    rw [← diagnostics.1] at kind
    cases kind
  | false =>
    rw [abstract, if_neg Bool.false_ne_true] at source
    cases source

namespace GenerationUnit

variable {unit : GenerationUnit}

theorem run_of_ok {output : UnitOutput} (first : unit.shadowedBy = none)
    (h : generateBuilder model unit.builder unit.application.applied = .ok output) :
    unit.run model = output := by
  simp [run, generate, first, h]

theorem failed_run_of_error {error : GenerationError} (first : unit.shadowedBy = none)
    (h : generateBuilder model unit.builder unit.application.applied = .error error) :
    (unit.run model).Failed := by
  simp [run, generate, first, h, UnitOutput.Failed]

theorem failed_run_of_shadowedBy {first : Application} (h : unit.shadowedBy = some first) :
    (unit.run model).Failed := by
  obtain ⟨source, arguments, diagnostics⟩ := @run_of_shadowedBy model unit first h
  exact ⟨source, _, diagnostics, rfl⟩

theorem failed_run_iff (first : unit.shadowedBy = none) :
    (unit.run model).Failed ↔
      ∃ error, generateBuilder model unit.builder unit.application.applied = .error error := by
  cases generated : generateBuilder model unit.builder unit.application.applied with
  | error error => exact iff_of_true (failed_run_of_error first generated) ⟨error, rfl⟩
  | ok output =>
    rw [run_of_ok first generated]
    exact iff_of_false (not_failed_of_generateBuilder generated) (by simp)

theorem source_run (unit : GenerationUnit) :
    (unit.run model).source = (unit.part? model).map (·.text model) := by
  cases shadowed : unit.shadowedBy with
  | some first =>
    rw [(run_of_shadowedBy shadowed).1, part?, shadowed]
    rfl
  | none =>
    have source := @source_generateBuilder model unit.builder unit.application.applied
    rw [part?, shadowed]
    cases generated : generateBuilder model unit.builder unit.application.applied with
    | error error =>
      rw [(failed_run_of_error shadowed generated).1]
      simpa [generated, Except.toOption] using source
    | ok output =>
      rw [run_of_ok shadowed generated]
      simpa [generated, Except.toOption] using source

end GenerationUnit

/-! ## The units of one entry -/

namespace NamedType

theorem mem_units_iff {unit : GenerationUnit} :
    unit ∈ builder.units position ↔ ∃ first others, builder.applications = first :: others ∧
      (unit = ⟨position, builder, first, none⟩ ∨
        ∃ application ∈ others, unit = ⟨position, builder, application, some first⟩) := by
  unfold units
  cases builder.applications with
  | nil => simp
  | cons first others => simp [@eq_comm _ unit]

theorem part?_units (builder : NamedType) (position : Nat) :
    (builder.units position).filterMap (·.part? model) = (builder.part? model).toList := by
  unfold units part?
  cases builder.applications with
  | nil => rfl
  | cons first others =>
    have here : GenerationUnit.part? model ⟨position, builder, first, none⟩ =
        generatedPart? model builder first.applied := rfl
    have late : (others.map fun application => (⟨position, builder, application, some first⟩ :
        GenerationUnit)).filterMap (·.part? model) = [] := by
      simp [GenerationUnit.part?]
    rw [List.filterMap_cons, here, late, List.head?_cons, Option.bind_some]
    cases generatedPart? model builder first.applied <;> rfl

/-- All applications to an entry but the first fail. -/
theorem pairwise_failed_units (model : Compilation) (builder : NamedType) (position : Nat) :
    (builder.units position).Pairwise fun _ later => (later.run model).Failed := by
  unfold units
  cases builder.applications with
  | nil => exact .nil
  | cons first others =>
    have late : ∀ unit ∈ others.map fun application =>
        (⟨position, builder, application, some first⟩ : GenerationUnit),
        (unit.run model).Failed := by
      intro unit hunit
      obtain ⟨application, -, rfl⟩ := List.mem_map.mp hunit
      exact GenerationUnit.failed_run_of_shadowedBy rfl
    refine List.pairwise_cons.mpr ⟨late, ?_⟩
    exact List.pairwise_of_forall_mem_list fun _ _ unit hunit => late unit hunit

theorem first_mem_units {first : Application} (h : first ∈ builder.applications.head?)
    (position : Nat) : ⟨position, builder, first, none⟩ ∈ builder.units position := by
  obtain ⟨others, applications⟩ := List.head?_eq_some_iff.mp h
  exact mem_units_iff.mpr ⟨first, others, applications, .inl rfl⟩

/-- All units of one entry fail after those of another entry for the class if the first one does. -/
theorem failed_units_iff {earlier later : NamedType} {position' : Nat} :
    (∀ unit ∈ earlier.units position, ∀ unit' ∈ later.units position',
        unit'.builder.header = unit.builder.header → (unit'.run model).Failed) ↔
      earlier.GivesWay model later := by
  constructor
  · intro fails same applied first hfirst
    have head := List.head_mem_head? applied
    exact (GenerationUnit.failed_run_iff rfl).mp
      (fails _ (first_mem_units head position) _ (first_mem_units hfirst position') same)
  · intro givesWay unit hunit unit' hunit' same
    obtain ⟨head, tail, applications, -⟩ := mem_units_iff.mp hunit
    obtain ⟨first, others, applications', this⟩ := mem_units_iff.mp hunit'
    rw [(position_of_mem_units hunit).2, (position_of_mem_units hunit').2] at same
    obtain rfl | ⟨application, -, rfl⟩ := this
    · exact (GenerationUnit.failed_run_iff rfl).mpr
        (givesWay same (by simp [applications]) first (by simp [applications']))
    · exact GenerationUnit.failed_run_of_shadowedBy rfl

end NamedType

/-! ## Runs -/

namespace Compilation

theorem parts_eq (model : Compilation) : model.parts = model.types.filterMap (·.part? model) := by
  have perEntry : model.parts =
      (model.types.zipIdx.map Prod.fst).flatMap fun builder => (builder.part? model).toList := by
    rw [parts, units, List.filterMap_flatMap, List.flatMap_map]
    simp only [NamedType.part?_units]
  rw [perEntry, List.zipIdx_map_fst, List.filterMap_eq_flatMap_toList]

/-- The files of a run hold its parts, in order. -/
theorem texts_generate (model : Compilation) :
    model.generate.files.map (·.text) = model.parts.map (·.text model) := by
  rw [generate, Report.texts_ofOutputs, List.filterMap_map, parts, List.map_filterMap]
  exact List.filterMap_congr fun unit _ => unit.source_run

/-- Units are refused entry by entry. -/
theorem pairwise_units_iff :
    (model.units.Pairwise fun earlier later =>
      later.builder.header = earlier.builder.header → (later.run model).Failed) ↔
    model.types.Pairwise (NamedType.GivesWay model) := by
  have within : ∀ entry ∈ model.types.zipIdx, (entry.1.units entry.2).Pairwise
      fun earlier later => later.builder.header = earlier.builder.header →
        (later.run model).Failed := by
    intro entry _
    refine List.Pairwise.imp ?_ (entry.1.pairwise_failed_units model entry.2)
    intro earlier later failed _
    exact failed
  calc
    _ ↔ model.types.zipIdx.Pairwise fun earlier later => earlier.1.GivesWay model later.1 := by
      rw [units, List.pairwise_flatMap, and_iff_right within]
      simp only [NamedType.failed_units_iff]
    _ ↔ (model.types.zipIdx.map Prod.fst).Pairwise (NamedType.GivesWay model) :=
      List.pairwise_map.symm
    _ ↔ _ := by rw [List.zipIdx_map_fst]

/-- Every class is generated once exactly where no two entries of the snapshot generate the same
class. The parts that are counted are those that the files hold. -/
theorem generatesOnce_iff (model : Compilation) :
    model.generate.files.map (·.text) = model.parts.map (·.text model) ∧
      (model.GeneratesOnce ↔ model.EntriesApart) := by
  have declares : (model.parts.map (·.header)).Nodup ↔
      (model.types.filterMap (·.part? model)).Pairwise fun earlier later =>
        earlier.header ≠ later.header := by
    rw [parts_eq, List.Nodup, List.pairwise_map]
  exact ⟨texts_generate model,
    fun once => ⟨declares.mp once.declares, pairwise_units_iff.mp once.refuses⟩,
    fun apart => ⟨declares.mpr apart.declares, pairwise_units_iff.mpr apart.refuses⟩⟩

/-- A class of the entity `Order`, and a class that asks for a builder for it. -/
def orderAndBuilder : NamedType × NamedType :=
  ({ name := "Order", qualifier := "Shop", constructors := [{ accessibility := .publicAccess }] },
    { name := "OrderBuilder", qualifier := "Shop", attributes :=
        [⟨"MakeBuilder", [some (.type (.named "Shop" "Order" .classType))], none⟩] })

/-- A builder class that the snapshot lists twice is generated twice, without a report. -/
theorem not_generatesOnce_listedTwice :
    let (order, builder) := orderAndBuilder
    let model : Compilation := { types := [order, builder, builder] }
    model.generate.files.map (·.name) = ["OrderBuilder.g.cs", "OrderBuilder.1.g.cs"] ∧
      model.generate.diagnostics = [] ∧
      model.parts.map (·.header) = [⟨"Shop", "OrderBuilder", 0⟩, ⟨"Shop", "OrderBuilder", 0⟩] ∧
      ¬ model.GeneratesOnce :=
  ⟨by decide +kernel, by decide +kernel, by decide +kernel,
    fun once => absurd once.declares (by decide +kernel)⟩

end Compilation

end FluentGen
