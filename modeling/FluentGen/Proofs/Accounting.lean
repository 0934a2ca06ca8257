import FluentGen.Proofs.WalkLimits
/-!
# What becomes of every application

No application of the attribute that asks for a builder is lost: each is one unit, and each unit
ends in a file or in one report that says why there is none.

## Main definitions
* `Compilation.unitsAt`: the units of one class.
* `UnitOutput.IsMade`, `UnitOutput.IsRefused`: the two ways in which a unit ends.
* `Compilation.Accounts`: which units there are, and what they put into the report of a run.

## Main statements
* `Compilation.accounts`: every snapshot is accounted for.
-/
namespace FluentGen

namespace UnitOutput

/-- Whether the unit ends in a file, without a report that there is none. -/
def IsMade (output : UnitOutput) : Prop :=
  output.source.isSome ∧
    ∀ diagnostic ∈ output.diagnostics,
      diagnostic.kind ≠ .abstractEntity ∧ diagnostic.kind ≠ .unitFailed

/-- Whether the unit ends without a file, in a single report that says why. -/
def IsRefused (output : UnitOutput) : Prop :=
  output.source = none ∧
    ∃ diagnostic, output.diagnostics = [diagnostic] ∧
      (diagnostic.kind = .abstractEntity ∨ diagnostic.kind = .unitFailed)

end UnitOutput

/-- The units of the class at a position. -/
def Compilation.unitsAt (model : Compilation) (position : Nat) : List GenerationUnit :=
  model.units.filter (·.position == position)

/-- Which units a snapshot has, and what they put into the report. -/
structure Compilation.Accounts (model : Compilation) : Prop where
  /-- Classes are visited in snapshot order. -/
  ordered : (model.units.map (·.position)).Pairwise (· ≤ ·)
  builder : ∀ unit ∈ model.units, model.types[unit.position]? = some unit.builder
  /-- A class has one unit for each of its applications, in the order of its attributes. -/
  applied : ∀ {position builder}, model.types[position]? = some builder →
    (model.unitsAt position).map (·.application.applied) =
      builder.attributes.filter (·.isNamed makeBuilder)
  /-- The first application stands before all others. -/
  shadowedBy : ∀ {position index unit}, (model.unitsAt position)[index]? = some unit →
    unit.shadowedBy =
      if index = 0 then none else (model.unitsAt position).head?.map (·.application)
  /-- The texts and the reports of a run are those of its units, in order. -/
  texts : model.generate.files.map (·.text) =
    model.units.filterMap fun unit => (unit.run model).source
  diagnostics : model.generate.diagnostics =
    model.units.flatMap fun unit => (unit.run model).diagnostics
  settled : ∀ unit ∈ model.units, (unit.run model).IsMade ∨ (unit.run model).IsRefused
  /-- An application that comes too late is reported where it stands. -/
  late : ∀ unit ∈ model.units, unit.shadowedBy ≠ none → (unit.run model).source = none ∧
    ∃ arguments, (unit.run model).diagnostics =
      [⟨.unitFailed, unit.application.applied.location.or unit.builder.location, arguments⟩]
  /-- Where the walks of a unit end, its outcome does not depend on how soon they would be cut off. -/
  uncut : ∀ unit ∈ model.units, unit.WalksEnd model → ∀ limit ≥ model.walkLimit,
    unit.run (model.withLimit limit) = unit.run model
  /-- Neither does the report where all walks end. -/
  report_uncut : model.WalksEnd → ∀ limit ≥ model.walkLimit,
    (model.withLimit limit).generate = model.generate

/-! ## Reports -/

namespace Report

theorem texts_ofOutputs (names : FileNames) (outputs : List UnitOutput) :
    (ofOutputs names outputs).files.map (·.text) = outputs.filterMap (·.source) := by
  induction outputs generalizing names with
  | nil => rfl
  | cons output outputs ih =>
    cases source : output.source with
    | some text => simp [ofOutputs, source, ih]
    | none => simp [ofOutputs, source, ih]

theorem diagnostics_ofOutputs (names : FileNames) (outputs : List UnitOutput) :
    (ofOutputs names outputs).diagnostics = outputs.flatMap (·.diagnostics) := by
  induction outputs generalizing names with
  | nil => rfl
  | cons output outputs ih =>
    cases source : output.source with
    | some text => simp [ofOutputs, source, ih]
    | none => simp [ofOutputs, source, ih]

end Report

/-! ## Units -/

namespace NamedType

variable {builder : NamedType} {position : Nat}

theorem applied_applications (builder : NamedType) :
    builder.applications.map (·.applied) = builder.attributes.filter (·.isNamed makeBuilder) :=
  calc
    _ = (builder.attributes.zipIdx.filter ((·.isNamed makeBuilder) ∘ Prod.fst)).map Prod.fst := by
      rw [applications, List.map_map]
      rfl
    _ = (builder.attributes.zipIdx.map Prod.fst).filter (·.isNamed makeBuilder) :=
      List.filter_map.symm
    _ = _ := by rw [List.zipIdx_map_fst]

theorem position_of_mem_units {unit : GenerationUnit} (h : unit ∈ builder.units position) :
    unit.position = position ∧ unit.builder = builder := by
  unfold units at h
  split at h
  · cases h
  · obtain rfl | h := List.mem_cons.mp h
    · exact ⟨rfl, rfl⟩
    · obtain ⟨application, -, rfl⟩ := List.mem_map.mp h
      exact ⟨rfl, rfl⟩

theorem application_units (builder : NamedType) (position : Nat) :
    (builder.units position).map (·.application) = builder.applications := by
  unfold units
  cases builder.applications with
  | nil => rfl
  | cons first others => simp [Function.comp_def]

theorem shadowedBy_of_getElem?_units {index : Nat} {unit : GenerationUnit}
    (h : (builder.units position)[index]? = some unit) :
    unit.shadowedBy = if index = 0 then none else builder.applications.head? := by
  unfold units at h
  split at h
  next => simp at h
  next first others found =>
    cases index with
    | zero =>
      obtain rfl := Option.some.inj h
      rfl
    | succ index =>
      simp only [List.getElem?_cons_succ, List.getElem?_map, Option.map_eq_some_iff] at h
      obtain ⟨application, -, rfl⟩ := h
      simp [found]

end NamedType

namespace Compilation

variable {model : Compilation}

theorem mem_units_iff {unit : GenerationUnit} :
    unit ∈ model.units ↔ ∃ (builder : NamedType) (position : Nat),
      model.types[position]? = some builder ∧ unit ∈ builder.units position := by
  simp [units, List.mem_zipIdx_iff_getElem?]

theorem getElem?_types_of_mem_units {unit : GenerationUnit} (h : unit ∈ model.units) :
    model.types[unit.position]? = some unit.builder := by
  obtain ⟨builder, position, declared, h⟩ := mem_units_iff.mp h
  obtain ⟨rfl, rfl⟩ := NamedType.position_of_mem_units h
  exact declared

/-- Of the units of several classes, counted from `start` on, those at one position. -/
theorem filter_flatMap_units (types : List NamedType) (start index : Nat) :
    ((types.zipIdx start).flatMap fun (builder, position) => builder.units position).filter
        (·.position == start + index) =
      types[index]?.elim [] (·.units (start + index)) := by
  induction types generalizing start index with
  | nil => rfl
  | cons first others ih =>
    rw [List.zipIdx_cons, List.flatMap_cons, List.filter_append]
    cases index with
    | zero =>
      -- All units of the first class stand at `start`, those of the others after it.
      have here : (first.units start).filter (·.position == start) = first.units start := by
        refine List.filter_eq_self.mpr fun unit hunit => ?_
        simp [(NamedType.position_of_mem_units hunit).1]
      have later : ((others.zipIdx (start + 1)).flatMap fun (builder, position) =>
          builder.units position).filter (·.position == start) = [] := by
        refine List.filter_eq_nil_iff.mpr fun unit hunit => ?_
        obtain ⟨entry, hentry, hunit⟩ := List.mem_flatMap.mp hunit
        have := List.le_snd_of_mem_zipIdx hentry
        simp only [(NamedType.position_of_mem_units hunit).1, beq_iff_eq]
        omega
      simp [here, later]
    | succ index =>
      have here : (first.units start).filter (·.position == start + (index + 1)) = [] := by
        refine List.filter_eq_nil_iff.mpr fun unit hunit => ?_
        simp [(NamedType.position_of_mem_units hunit).1]
      have later := ih (start + 1) index
      rw [Nat.add_right_comm, Nat.add_assoc] at later
      rw [here, List.nil_append, later, List.getElem?_cons_succ]

theorem unitsAt_eq (model : Compilation) (position : Nat) :
    model.unitsAt position = model.types[position]?.elim [] (·.units position) := by
  have filtered := filter_flatMap_units model.types 0 position
  rwa [Nat.zero_add] at filtered

theorem flatMap_units_eq (types : List NamedType) (start : Nat) :
    ((types.zipIdx start).flatMap fun (builder, position) => builder.units position) =
      (List.range types.length).flatMap fun index =>
        types[index]?.elim [] (·.units (start + index)) := by
  induction types generalizing start with
  | nil => rfl
  | cons first others ih =>
    rw [List.zipIdx_cons, List.flatMap_cons, ih, List.length_cons, List.range_succ_eq_map,
      List.flatMap_cons, List.flatMap_map]
    simp [Nat.add_right_comm, Nat.add_assoc]

/-- The units of a snapshot are those of one class after the other. -/
theorem units_eq_flatMap_unitsAt (model : Compilation) :
    model.units = (List.range model.types.length).flatMap model.unitsAt := by
  have units := flatMap_units_eq model.types 0
  simp only [Nat.zero_add, ← unitsAt_eq] at units
  exact units

theorem pairwise_position_units (model : Compilation) :
    (model.units.map (·.position)).Pairwise (· ≤ ·) := by
  -- Units of one class have one position, and classes are counted upwards.
  refine List.pairwise_map.mpr (List.pairwise_flatMap.mpr ⟨fun entry _ => ?_, ?_⟩)
  · refine List.pairwise_of_forall_mem_list fun a ha b hb => ?_
    exact Nat.le_of_eq ((NamedType.position_of_mem_units ha).1.trans
      (NamedType.position_of_mem_units hb).1.symm)
  · have ascending : (model.types.zipIdx.map Prod.snd).Pairwise (· < ·) := by
      rw [List.zipIdx_map_snd]
      exact List.pairwise_lt_range'
    refine (List.pairwise_map.mp ascending).imp fun less a ha b hb => ?_
    rw [(NamedType.position_of_mem_units ha).1, (NamedType.position_of_mem_units hb).1]
    exact Nat.le_of_lt less

end Compilation

/-! ## Outcomes -/

theorem kind_of_mem_synthesisDiagnostics {entity : Entity} {builder : NamedType}
    {plan : MemberPlan} {diagnostic : Diagnostic}
    (h : diagnostic ∈ synthesisDiagnostics entity builder plan) :
    diagnostic.kind ≠ .abstractEntity ∧ diagnostic.kind ≠ .unitFailed := by
  simp only [synthesisDiagnostics, List.mem_append, List.mem_map] at h
  obtain ((⟨skipped, -, rfl⟩ | h) | h) | h := h
  · simp [SkippedMember.diagnostic]
  · unfold constructorDiagnostics at h
    split at h
    · simp [List.mem_singleton.mp h]
    · cases h
  · unfold buildDiagnostics at h
    split at h
    · simp [List.mem_singleton.mp h]
    · split at h
      · simp [List.mem_singleton.mp h]
      · cases h
  · unfold buildManyDiagnostics at h
    split at h
    · simp [List.mem_singleton.mp h]
    · cases h

variable {model : Compilation} {builder : NamedType} {a : Attribute} {output : UnitOutput}

theorem generateBuilder_eq_ok_iff :
    generateBuilder model builder a = .ok output ↔ ∃ reference config entity,
      a.entity? = some reference ∧ Configuration.forUnit model builder a = .ok config ∧
      Entity.resolve model reference = .ok entity ∧
      output =
        if entity.isAbstract then
          { builder := builder.name, source := none, diagnostics :=
            [⟨.abstractEntity, a.location.or builder.location, [builder.name, entity.fullName]⟩] }
        else
          { builder := builder.name, source := some (synthesize model entity config builder).text,
            diagnostics := (synthesize model entity config builder).diagnostics } := by
  unfold generateBuilder
  cases a.entity? with
  | none => simp [bind, Except.bind]
  | some reference =>
    cases Configuration.forUnit model builder a with
    | error error => simp [bind, Except.bind]
    | ok config =>
      cases resolved : Entity.resolve model reference with
      | error error => simp [bind, Except.bind, resolved]
      | ok entity =>
        cases abstract : entity.isAbstract <;>
          simp [bind, Except.bind, pure, Except.pure, resolved, abstract, @eq_comm _ output]

theorem UnitOutput.isMade_or_isRefused_of_generateBuilder
    (h : generateBuilder model builder a = .ok output) : output.IsMade ∨ output.IsRefused := by
  obtain ⟨reference, config, entity, -, -, -, rfl⟩ := generateBuilder_eq_ok_iff.mp h
  split
  · exact .inr ⟨rfl, _, rfl, .inl rfl⟩
  · exact .inl ⟨rfl, fun _ => kind_of_mem_synthesisDiagnostics⟩

namespace GenerationUnit

theorem isMade_or_isRefused_run (model : Compilation) (unit : GenerationUnit) :
    (unit.run model).IsMade ∨ (unit.run model).IsRefused := by
  unfold run
  split
  next output generated =>
    unfold generate at generated
    split at generated
    · cases generated
    · exact UnitOutput.isMade_or_isRefused_of_generateBuilder generated
  next => exact .inr ⟨rfl, _, rfl, .inr rfl⟩

theorem run_of_shadowedBy {unit : GenerationUnit} {first : Application}
    (h : unit.shadowedBy = some first) :
    (unit.run model).source = none ∧ ∃ arguments, (unit.run model).diagnostics =
      [⟨.unitFailed, unit.application.applied.location.or unit.builder.location, arguments⟩] := by
  simp [run, generate, h, failureLocation]

end GenerationUnit

theorem Compilation.accounts (model : Compilation) : model.Accounts where
  ordered := pairwise_position_units model
  builder := fun _ => getElem?_types_of_mem_units
  applied := by
    intro position builder declared
    rw [unitsAt_eq, declared, Option.elim_some, ← NamedType.applied_applications,
      ← NamedType.application_units builder position, List.map_map]
    rfl
  shadowedBy := by
    intro position index unit found
    rw [unitsAt_eq] at found ⊢
    cases declared : model.types[position]? with
    | none => simp [declared] at found
    | some builder =>
      rw [declared] at found
      rw [NamedType.shadowedBy_of_getElem?_units found,
        ← NamedType.application_units builder position]
      simp
  texts := by
    rw [generate, Report.texts_ofOutputs, List.filterMap_map]
    rfl
  diagnostics := by rw [generate, Report.diagnostics_ofOutputs, List.flatMap_map]
  settled := fun unit _ => unit.isMade_or_isRefused_run model
  late := by
    intro unit _ late
    obtain ⟨first, shadowed⟩ := Option.ne_none_iff_exists'.mp late
    exact GenerationUnit.run_of_shadowedBy shadowed
  uncut := fun _ _ ends _ => run_withLimit ends
  report_uncut := fun ends _ => generate_withLimit ends

/-- A class that asks for a builder twice. -/
def NamedType.askingTwice : NamedType where
  name := "OrderBuilder"
  attributes := [⟨"MakeBuilder", [], none⟩, ⟨"MakeBuilder", [], some ⟨"Orders.cs", 3, 1⟩⟩]

/-- The second application is refused where it stands. -/
theorem Compilation.accounts_askingTwice :
    let model : Compilation := { types := [.askingTwice] }
    ∃ unit ∈ model.units, (unit.run model).source = none ∧ ∃ arguments,
      (unit.run model).diagnostics = [⟨.unitFailed, some ⟨"Orders.cs", 3, 1⟩, arguments⟩] := by
  intro model
  let first : Application := ⟨0, ⟨"MakeBuilder", [], none⟩⟩
  let second : GenerationUnit :=
    ⟨0, .askingTwice, ⟨1, ⟨"MakeBuilder", [], some ⟨"Orders.cs", 3, 1⟩⟩⟩, some first⟩
  have found : second ∈ model.units := by decide +kernel
  exact ⟨second, found, model.accounts.late second found (by simp [second])⟩

end FluentGen
