import FluentGen.Proofs.Declarations
import FluentGen.Proofs.HandWritten
import FluentGen.Proofs.Members
/-!
# Reports on a builder

What is reported next to the text of a builder is decided by what its author wrote, and the reports
tell which of the members that build are in the text.

## Main definitions
* `Member.isBlocked`: whether a hand-written field keeps a member from being tracked.
* `Reports`: which reports come with a builder and what they tell of it.

## Main statements
* `map_id_buildingDiagnostics`: the reports on members that build, by identifier.
* `reports`: this is what is reported for every builder.
-/
namespace FluentGen

/-- Whether a hand-written field of another type has the name of the field behind a member. -/
def Member.isBlocked (model : Compilation) (config : Configuration) (builder : NamedType)
    (member : Member) : Bool :=
  (builder.field? member.fieldName).any fun field =>
    !field.isCompatible config member (classify model config member.type).mockable

/-- The reports on the constructor and on the methods that build. -/
def buildingDiagnostics (entity : Entity) (builder : NamedType) : List Diagnostic :=
  constructorDiagnostics builder ++ buildDiagnostics entity builder ++ buildManyDiagnostics builder

/-- The identifiers of the reports that come with a text, in order. -/
def Synthesis.ids (synthesis : Synthesis) : List String :=
  synthesis.diagnostics.map (·.kind.id)

/-- A text comes with the reports on members that are left out and on members that build, and has the
latter as the reports tell. -/
structure Reports (model : Compilation) (entity : Entity) (config : Configuration)
    (builder : NamedType) (c : GeneratedClass) (synthesis : Synthesis) : Prop where
  /-- The text consists of declarations. -/
  written : c.IsWrittenIn synthesis.text
  /-- First comes one report for each member that is left out, which it names last; then come those
  on the constructor and the methods that build. -/
  diagnostics : ∃ conflicts building, synthesis.diagnostics = conflicts ++ building ∧
    List.Forall₂ (fun member (report : Diagnostic) => report.kind.id = "BSG007" ∧
        report.arguments.getLast? = some member.name)
      ((entity.candidates config.builder.unreachableSetters).filter
        (·.isBlocked model config builder)) conflicts ∧
    building.map (·.kind.id) =
      (if ∃ constructor ∈ builder.constructors, constructor.parameters = [] then ["BSG002"]
        else []) ++
      (if ∃ method ∈ builder.methods,
          method.name = names.build ∧ method.isStatic = false ∧ method.parameters = [] then
          ["BSG001"]
        else if entity.constructorParameters = none then ["BSG004"]
        else []) ++
      (if ∃ method ∈ builder.methods, method.name = names.buildMany then ["BSG003"] else [])
  /-- One of the declarations is a method that builds, unless the author wrote it or there is no
  constructor to call. -/
  build : (∃ lines ∈ c.paragraphs, Text.IsMethod c.depth
      ("public " ++ c.entityType ++ " " ++ names.build ++ "()") "return result;" lines) ↔
    "BSG001" ∉ synthesis.ids ∧ "BSG004" ∉ synthesis.ids
  /-- One of the declarations is a constructor, unless the author wrote it. -/
  constructor : (∃ lines ∈ c.paragraphs, Text.IsMethod c.depth
      ("public " ++ c.name ++ "()") (names.preBuild ++ "();") lines) ↔
    "BSG002" ∉ synthesis.ids
  /-- One of the declarations is a method that builds many, unless the author wrote it or nothing can be
  built. -/
  buildMany : (∃ lines ∈ c.paragraphs, Text.IsMethod c.depth
      ("public System.Collections.Generic.IEnumerable<" ++ c.entityType ++ "> " ++ names.buildMany ++
        "(int count = 3)")
      ("return Enumerable.Range(0, count).Select(_ => " ++ names.build ++ "());") lines) ↔
    "BSG003" ∉ synthesis.ids ∧ "BSG004" ∉ synthesis.ids

variable {model : Compilation} {entity : Entity} {config : Configuration} {builder : NamedType}

theorem isOk_trackMember {member : Member} :
    (trackMember model config builder member).isOk = !member.isBlocked model config builder := by
  simp only [trackMember, Member.isBlocked]
  split
  next absent => rw [absent]; rfl
  next field present =>
    rw [present]
    split
    next fits => simp [fits, Except.isOk, Except.toBool]
    next clash => simp [clash, Except.isOk, Except.toBool]

/-- The reports on members that are left out name these in order. -/
theorem forall₂_diagnostic_skipped :
    List.Forall₂ (fun member (report : Diagnostic) => report.kind.id = "BSG007" ∧
        report.arguments.getLast? = some member.name)
      ((entity.candidates config.builder.unreachableSetters).filter
        (·.isBlocked model config builder))
      ((planMembers model entity config builder).skipped.map (·.diagnostic builder)) := by
  have skipped : (planMembers model entity config builder).skipped.map (·.member) = _ :=
    map_member_skipped
  simp only [isOk_trackMember, Bool.not_not] at skipped
  rw [← skipped, List.forall₂_map_left_iff, List.forall₂_map_right_iff, List.forall₂_same]
  exact fun _ _ => ⟨rfl, rfl⟩

/-! ## Reports on members that build -/

theorem map_id_constructorDiagnostics : (constructorDiagnostics builder).map (·.kind.id) =
    if GeneratedClass.generatesConstructor builder then [] else ["BSG002"] := by
  cases written : builder.defaultConstructor? <;>
    simp [constructorDiagnostics, GeneratedClass.generatesConstructor, written, DiagnosticKind.id]

theorem map_id_buildDiagnostics : (buildDiagnostics entity builder).map (·.kind.id) =
    if builder.hasBuild then ["BSG001"]
    else if entity.constructorParameters = none then ["BSG004"] else [] := by
  simp only [buildDiagnostics, Option.isNone_iff_eq_none]
  split
  · rfl
  · split <;> rfl

theorem map_id_buildManyDiagnostics : (buildManyDiagnostics builder).map (·.kind.id) =
    if builder.hasBuildMany then ["BSG003"] else [] := by
  simp only [buildManyDiagnostics]
  split <;> rfl

theorem map_id_buildingDiagnostics : (buildingDiagnostics entity builder).map (·.kind.id) =
    (if GeneratedClass.generatesConstructor builder then [] else ["BSG002"]) ++
      (if builder.hasBuild then ["BSG001"]
        else if entity.constructorParameters = none then ["BSG004"] else []) ++
      (if builder.hasBuildMany then ["BSG003"] else []) := by
  simp only [buildingDiagnostics, List.map_append, map_id_constructorDiagnostics,
    map_id_buildDiagnostics, map_id_buildManyDiagnostics]

theorem diagnostics_synthesize : (synthesize model entity config builder).diagnostics =
    (planMembers model entity config builder).skipped.map (·.diagnostic builder) ++
      buildingDiagnostics entity builder := by
  simp only [synthesize, synthesisDiagnostics, buildingDiagnostics, List.append_assoc]

/-- Reports on members that are left out are of their own kind. -/
theorem mem_ids_synthesize_iff {id : String} (h : id ≠ "BSG007") :
    id ∈ (synthesize model entity config builder).ids ↔
      id ∈ (buildingDiagnostics entity builder).map (·.kind.id) := by
  rw [Synthesis.ids, diagnostics_synthesize, List.map_append, List.mem_append]
  refine or_iff_right fun hmem => h ?_
  obtain ⟨report, hreport, rfl⟩ := List.mem_map.mp hmem
  obtain ⟨skipped, -, rfl⟩ := List.mem_map.mp hreport
  rfl

theorem constructorOverride_mem_ids_iff : "BSG002" ∈ (synthesize model entity config builder).ids ↔
    GeneratedClass.generatesConstructor builder = false := by
  rw [mem_ids_synthesize_iff (by decide), map_id_buildingDiagnostics]
  grind

theorem buildOverride_mem_ids_iff : "BSG001" ∈ (synthesize model entity config builder).ids ↔
    builder.hasBuild = true := by
  rw [mem_ids_synthesize_iff (by decide), map_id_buildingDiagnostics]
  grind

theorem noConstructor_mem_ids_iff : "BSG004" ∈ (synthesize model entity config builder).ids ↔
    builder.hasBuild = false ∧ entity.constructorParameters = none := by
  rw [mem_ids_synthesize_iff (by decide), map_id_buildingDiagnostics]
  grind

theorem buildManyOverride_mem_ids_iff : "BSG003" ∈ (synthesize model entity config builder).ids ↔
    builder.hasBuildMany = true := by
  rw [mem_ids_synthesize_iff (by decide), map_id_buildingDiagnostics]
  grind

/-! ## What the reports tell -/

namespace GeneratedClass

variable {c : GeneratedClass}

/-- A text has the method that builds if the class has it. -/
theorem exists_isMethod_build_iff :
    (∃ lines ∈ c.paragraphs, Text.IsMethod c.depth
        ("public " ++ c.entityType ++ " " ++ names.build ++ "()") "return result;" lines) ↔
      ∃ method, .build method ∈ c.members := by
  have only (member : GeneratedMember) (last : member.lastStatement? c = some "return result;") :
      ∃ method, member = .build method := by
    -- The statements that return something differ in the letter after the keyword.
    have letter : (member.lastStatement? c).map (·.toList[7]?) = some (some 'r') := by
      rw [last]
      rfl
    cases member with
    | build method => exact ⟨method, rfl⟩
    | _ => simp [GeneratedMember.lastStatement?, names] at letter
  rw [exists_isMethod_iff (by decide) (fun member h => ?_) only]
  · grind
  · obtain ⟨method, rfl⟩ := h
    exact GeneratedMember.isMethod_block (by simp [GeneratedMember.buildBody]) _ _

/-- A text has the constructor if the class has it. -/
theorem exists_isMethod_constructor_iff :
    (∃ lines ∈ c.paragraphs, Text.IsMethod c.depth ("public " ++ c.name ++ "()")
        (names.preBuild ++ "();") lines) ↔
      ∃ initial setup, .constructor initial setup ∈ c.members := by
  have only (member : GeneratedMember)
      (last : member.lastStatement? c = some (names.preBuild ++ "();")) :
      ∃ initial setup, member = .constructor initial setup := by
    have letter : (member.lastStatement? c).map (·.toList.head?) = some (some 'P') := by
      rw [last]
      rfl
    cases member with
    | constructor initial setup => exact ⟨initial, setup, rfl⟩
    | _ => simp [GeneratedMember.lastStatement?] at letter
  rw [exists_isMethod_iff (by decide) (fun member h => ?_) only]
  · grind
  · obtain ⟨initial, setup, rfl⟩ := h
    exact GeneratedMember.isMethod_block (by simp) _ _

/-- A text has the method that builds many if the class has it. -/
theorem exists_isMethod_buildMany_iff :
    (∃ lines ∈ c.paragraphs, Text.IsMethod c.depth
        ("public System.Collections.Generic.IEnumerable<" ++ c.entityType ++ "> " ++ names.buildMany ++
          "(int count = 3)")
        ("return Enumerable.Range(0, count).Select(_ => " ++ names.build ++ "());") lines) ↔
      .buildMany ∈ c.members := by
  have only (member : GeneratedMember)
      (last : member.lastStatement? c =
        some ("return Enumerable.Range(0, count).Select(_ => " ++ names.build ++ "());")) :
      member = .buildMany := by
    have letter : (member.lastStatement? c).map (·.toList[7]?) = some (some 'E') := by
      rw [last]
      rfl
    cases member with
    | buildMany => rfl
    | _ => simp [GeneratedMember.lastStatement?, names] at letter
  rw [exists_isMethod_iff (by decide) (fun member h => ?_) only, exists_eq_right]
  subst h
  exact GeneratedMember.isMethod_block rfl _ _

theorem exists_build_mem_members_iff :
    (∃ method, .build method ∈ (of model entity config builder).members) ↔
      generatesBuild entity builder = true := by
  simp only [mem_members_of_iff, generatesBuild, Bool.and_eq_true, Bool.not_eq_true']
  constructor
  · rintro ⟨method, generated⟩
    cases generated with
    | build absent some => exact ⟨absent, Option.isSome_of_eq_some some⟩
  · rintro ⟨absent, some⟩
    obtain ⟨parameters, some⟩ := Option.isSome_iff_exists.mp some
    exact ⟨_, .build absent some⟩

theorem exists_constructor_mem_members_iff :
    (∃ initial setup, .constructor initial setup ∈ (of model entity config builder).members) ↔
      generatesConstructor builder = true := by
  simp only [mem_members_of_iff]
  constructor
  · rintro ⟨initial, setup, generated⟩
    cases generated with
    | constructor absent => exact absent
  · exact fun absent => ⟨_, _, .constructor absent⟩

theorem buildMany_mem_members_iff :
    .buildMany ∈ (of model entity config builder).members ↔
      builder.hasBuildMany = false ∧ canBuild entity builder = true := by
  rw [mem_members_of_iff]
  constructor
  · intro generated
    cases generated with
    | buildMany absent can => exact ⟨absent, can⟩
  · exact fun ⟨absent, can⟩ => .buildMany absent can

end GeneratedClass

open GeneratedClass in
variable (model entity config builder) in
/-- These are the reports that come with every builder, and what they tell of it. -/
theorem reports : Reports model entity config builder (.of model entity config builder)
    (synthesize model entity config builder) where
  written := isWrittenIn_sourceText _
  diagnostics := by
    refine ⟨_, _, diagnostics_synthesize, forall₂_diagnostic_skipped, ?_⟩
    simp only [map_id_buildingDiagnostics, ← NamedType.generatesConstructor_eq_false_iff,
      ← NamedType.hasBuild_iff, ← NamedType.hasBuildMany_iff]
    cases generatesConstructor builder <;> rfl
  build := by
    rw [exists_isMethod_build_iff, exists_build_mem_members_iff, buildOverride_mem_ids_iff,
      noConstructor_mem_ids_iff, generatesBuild]
    cases builder.hasBuild <;> cases entity.constructorParameters <;> simp
  constructor := by
    rw [exists_isMethod_constructor_iff, exists_constructor_mem_members_iff,
      constructorOverride_mem_ids_iff, Bool.not_eq_false]
  buildMany := by
    rw [exists_isMethod_buildMany_iff, buildMany_mem_members_iff, buildManyOverride_mem_ids_iff,
      noConstructor_mem_ids_iff, canBuild, generatesBuild]
    cases builder.hasBuild <;> cases entity.constructorParameters <;> simp

end FluentGen
