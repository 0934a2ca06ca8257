import FluentGen.Proofs.HandWritten
import FluentGen.Proofs.MarkedCode
import FluentGen.Proofs.Signatures
/-!
# References of a generated class

What generated declarations refer to on the builder is there, be it generated or hand-written. Uses
and definitions are decided upon separately; both follow the hand-written part and the plan.

## Main definitions
* `GeneratedClass.uses`: the references of a generated class.
* `GeneratedClass.Provides`: what a reference needs to be good.
* `GeneratedClass.Closed`: all references in a text are good.

## Main statements
* `GeneratedClass.closed_of`: every generated text is closed.
-/
namespace FluentGen

open Layout (indentation)

namespace GeneratedClass

/-- The references that are marked in the code of a generated class. -/
def uses (c : GeneratedClass) : List Use :=
  (c.fields.flatMap fun field => Piece.allUses (field.code c.config)) ++
    c.members.flatMap fun member => CodeLine.allUses (member.code c)

/-- Whether the generated class or the hand-written part has what a reference needs. -/
def Provides (c : GeneratedClass) (builder : NamedType) : Use → Prop
  | .field name =>
    (∃ field ∈ c.fields, field.name = name) ∨ ∃ field ∈ builder.fields, field.name = name
  | .default member name =>
    name = names.defaultStart ++ member.pascalName ∧
      ∃ field ∈ builder.fields, field.name = name ∧ (field.isConst = true ∨ field.isStatic = true)
  | .preBuild =>
    .preBuild ∈ c.members ∨
      ∃ method ∈ builder.methods, method.name = names.preBuild ∧ method.parameters = []
  | .postBuild =>
    .postBuild ∈ c.members ∨
      ∃ method ∈ builder.methods, method.name = names.postBuild ∧ method.parameters.length = 1
  | .setUnreachable => .setUnreachable ∈ c.members ∨ builder.declares names.setUnreachable = true
  | .build =>
    (∃ method, .build method ∈ c.members) ∨
      ∃ method ∈ builder.methods,
        method.name = names.build ∧ method.isStatic = false ∧ method.parameters = []
  | .newBuilder =>
    (∃ initial setup, .constructor initial setup ∈ c.members) ∨
      ∃ constructor ∈ builder.constructors, constructor.parameters = []

/-- Whether all references in the text of a class are good. -/
structure Closed (c : GeneratedClass) (builder : NamedType) (text : String) : Prop where
  /-- The text consists of the declarations of the class. -/
  written : c.IsWrittenIn text
  /-- These are the marked code as it is written. -/
  fields_spelled : c.fieldLines =
    c.fields.map fun field => indentation c.depth ++ Piece.spell c (field.code c.config)
  members_spelled : ∀ member ∈ c.members,
    c.memberLines member = (member.code c).map (CodeLine.text c c.depth)
  /-- No reference in it is left unmarked. -/
  fields_marked : ∀ field ∈ c.fields, Piece.AllMarked (field.code c.config)
  members_marked : ∀ member ∈ c.members, CodeLine.AllMarked (member.code c)
  /-- Every reference that is marked is good. -/
  provided : ∀ use ∈ c.uses, c.Provides builder use

end GeneratedClass

/-! ## What a generated class provides -/

section Provides

variable {model : Compilation} {entity : Entity} {config : Configuration} {builder : NamedType}

/-- The fixture makes up values only if one is used. -/
theorem strategy_ne_none_of_initialValue? {tracked : TrackedMember}
    (planned : tracked.Planned model config builder)
    (h : tracked.initialValue? config = some .fixture) : config.fixture.strategy ≠ .none := by
  intro none
  have unfaked : tracked.classification.fakeable = false := by
    simp [planned.classification, classify, none, InterfaceStrategy.covers]
  simp only [TrackedMember.initialValue?, unfaked] at h
  split at h
  · cases h
  · simp at h

theorem strategy_ne_none_of_fixtureSetup? {setup : String}
    (h : fixtureSetup? config = some setup) : config.fixture.strategy ≠ .none := by
  intro none
  simp [fixtureSetup?, none] at h

namespace GeneratedClass

theorem provides_field {tracked : TrackedMember}
    (h : tracked ∈ (planMembers model entity config builder).tracked) :
    (of model entity config builder).Provides builder (.field tracked.fieldName) := by
  cases found : builder.field? tracked.fieldName with
  | none =>
    refine .inl ⟨.backing tracked, ?_, rfl⟩
    have declares := (mem_tracked_iff.mp h).2.declaresField
    exact List.mem_append_right _ (List.mem_map_of_mem
      (List.mem_filter.mpr ⟨h, by rw [declares, found]; rfl⟩))
  | some field => exact .inr ⟨field, NamedType.mem_of_field? found⟩

theorem provides_fixture (h : config.fixture.strategy ≠ .none) :
    (of model entity config builder).Provides builder (.field names.fixtureField) := by
  cases found : builder.field? names.fixtureField with
  | none =>
    refine .inl ⟨.fixture, List.mem_append_left _ ?_, rfl⟩
    simp [h, found]
  | some field => exact .inr ⟨field, NamedType.mem_of_field? found⟩

theorem provides_preBuild (h : generatesConstructor builder = true) :
    (of model entity config builder).Provides builder .preBuild := by
  cases written : builder.hasPreBuild with
  | false => exact .inl (mem_members_of_iff.mpr (.preBuild h written))
  | true => exact .inr (NamedType.hasPreBuild_iff.mp written)

theorem provides_postBuild (h : generatesBuild entity builder = true) :
    (of model entity config builder).Provides builder .postBuild := by
  cases written : builder.hasPostBuild with
  | false => exact .inl (mem_members_of_iff.mpr (.postBuild h written))
  | true => exact .inr (NamedType.hasPostBuild_iff.mp written)

theorem provides_setUnreachable (h : generatesBuild entity builder = true)
    (some : (planMembers model entity config builder).unreachable ≠ []) :
    (of model entity config builder).Provides builder .setUnreachable := by
  cases written : builder.declares names.setUnreachable with
  | false => exact .inl (mem_members_of_iff.mpr (.setUnreachable h some written))
  | true => exact .inr written

theorem provides_build (h : canBuild entity builder = true) :
    (of model entity config builder).Provides builder .build := by
  cases written : builder.hasBuild with
  | true => exact .inr (NamedType.hasBuild_iff.mp written)
  | false =>
    simp only [canBuild, generatesBuild, written, Bool.not_false, Bool.true_and, Bool.or_false,
      Option.isSome_iff_exists] at h
    obtain ⟨parameters, found⟩ := h
    exact .inl ⟨_, mem_members_of_iff.mpr (.build written found)⟩

theorem provides_newBuilder : (of model entity config builder).Provides builder .newBuilder := by
  cases generated : generatesConstructor builder with
  | true => exact .inl ⟨_, _, mem_members_of_iff.mpr (.constructor generated)⟩
  | false => exact .inr (NamedType.generatesConstructor_eq_false_iff.mp generated)

/-! ## Closure -/

/-- A value that building passes on comes from the field of a tracked member. -/
theorem provides_buildValue (member : Member) :
    ∀ use ∈ ((planMembers model entity config builder).buildValue member).uses,
      (of model entity config builder).Provides builder use := by
  intro use huse
  cases found : (planMembers model entity config builder).find? member.pascalName with
  | none => simp [MemberPlan.buildValue, found, BuildValue.uses, BuildValue.field?] at huse
  | some tracked =>
    obtain ⟨hmem, name⟩ := MemberPlan.find?_eq_some_iff.mp found
    rw [BuildValue.uses, BuildValue.field?_of_mem hmem name] at huse
    obtain rfl := List.mem_singleton.mp huse
    exact provides_field hmem

theorem provides_constructorOf (generated : generatesConstructor builder = true) :
    ∀ use ∈ (constructorOf config (planMembers model entity config builder)).uses,
      (of model entity config builder).Provides builder use := by
  intro use huse
  simp only [constructorOf, GeneratedMember.uses, constructorUses, List.mem_append,
    List.mem_flatMap, List.mem_filterMap, Option.map_eq_some_iff, Option.mem_toList,
    List.mem_singleton] at huse
  obtain (⟨⟨_, _⟩, ⟨tracked, hmem, value, found, rfl, rfl⟩, huse⟩ | ⟨setup, found, rfl⟩) | rfl :=
    huse
  · obtain rfl | huse := List.mem_cons.mp huse
    · exact provides_field hmem
    · split at huse
      next made =>
        obtain rfl := List.mem_singleton.mp huse
        exact provides_fixture (strategy_ne_none_of_initialValue? (mem_tracked_iff.mp hmem).2
          (found.trans (congrArg some made)))
      next => cases huse
  · exact provides_fixture (strategy_ne_none_of_fixtureSetup? found)
  · exact provides_preBuild generated

theorem provides_buildMethod {parameters : List Member} (absent : builder.hasBuild = false)
    (found : entity.constructorParameters = some parameters) :
    ∀ use ∈ ((planMembers model entity config builder).buildMethod entity parameters).uses,
      (of model entity config builder).Provides builder use := by
  have generated : generatesBuild entity builder = true := by simp [generatesBuild, absent, found]
  intro use huse
  simp only [MemberPlan.buildMethod, BuildMethod.uses, List.mem_append, List.flatMap_map,
    List.mem_flatMap, List.mem_singleton] at huse
  obtain ((⟨member, -, huse⟩ | ⟨member, -, huse⟩) | ⟨tracked, hmem, huse⟩) | rfl := huse
  · exact provides_buildValue member use huse
  · exact provides_buildValue member use huse
  · obtain rfl | rfl : use = .setUnreachable ∨ use = .field tracked.fieldName := by
      simpa using huse
    · exact provides_setUnreachable generated (List.ne_nil_of_mem hmem)
    · exact provides_field (List.mem_of_mem_filter hmem)
  · exact provides_postBuild generated

/-- The default in the initializer of a generated field is a hand-written constant or static
field. -/
theorem provides_default {tracked : TrackedMember} {name : String}
    (h : tracked ∈ (planMembers model entity config builder).tracked)
    (found : tracked.defaultField = some name) :
    (of model entity config builder).Provides builder (.default tracked.member name) := by
  rw [(mem_tracked_iff.mp h).2.defaultField] at found
  split at found
  next =>
    obtain ⟨field, written, rfl⟩ := Option.map_eq_some_iff.mp found
    obtain ⟨⟨hfield, name⟩, fixed⟩ := NamedType.mem_of_defaultField? written
    exact ⟨name, field, hfield, rfl, fixed⟩
  next => cases found

/-- Every reference of a generated field is good. -/
theorem provides_of_mem_fields {field : GeneratedField}
    (h : field ∈ (of model entity config builder).fields) :
    ∀ use ∈ field.uses, (of model entity config builder).Provides builder use := by
  intro use huse
  obtain hfield | hfield := List.mem_append.mp h
  · split at hfield
    · obtain rfl := List.mem_singleton.mp hfield
      cases huse
    · cases hfield
  · obtain ⟨tracked, hmem, rfl⟩ := List.mem_map.mp hfield
    simp only [GeneratedField.uses, Option.mem_toList, Option.map_eq_some_iff] at huse
    obtain ⟨name, found, rfl⟩ := huse
    exact provides_default (List.mem_of_mem_filter hmem) found

/-- Every reference of another generated member is good. -/
theorem provides_of_mem_members {member : GeneratedMember}
    (h : member ∈ (of model entity config builder).members) :
    ∀ use ∈ member.uses, (of model entity config builder).Provides builder use := by
  intro use huse
  cases mem_members_of_iff.mp h with
  | constructor generated => exact provides_constructorOf generated use huse
  | setter hmem | addTo hmem =>
    obtain rfl := List.mem_singleton.mp huse
    exact provides_field hmem
  | build absent found =>
    exact provides_buildMethod absent found use huse
  | buildMany _ can | implicitCast can =>
    obtain rfl := List.mem_singleton.mp huse
    exact provides_build can
  | factory | creator =>
    obtain rfl := List.mem_singleton.mp huse
    exact provides_newBuilder
  | buildDefault | preBuild | postBuild | setUnreachable => cases huse

variable (model entity config builder) in
/-- Every generated text is closed. -/
theorem closed_of : (of model entity config builder).Closed builder
    (synthesize model entity config builder).text := by
  constructor
  case written => exact isWrittenIn_sourceText _
  case fields_spelled =>
    rw [fieldLines, Layout.allLines_eq_flatMap, List.flatMap_map, List.map_eq_flatMap]
    exact List.flatMap_congr fun field _ => field.lines_layout _ _
  case members_spelled => exact fun member _ => member.allLines_layout _ _
  case fields_marked => exact fun field _ => field.allMarked_code
  case members_marked => exact fun member _ => member.allMarked_code _
  case provided =>
    intro use huse
    obtain huse | huse := List.mem_append.mp huse
    · obtain ⟨field, hfield, huse⟩ := List.mem_flatMap.mp huse
      exact provides_of_mem_fields hfield use (GeneratedField.mem_allUses_code_iff.mp huse)
    · obtain ⟨member, hmember, huse⟩ := List.mem_flatMap.mp huse
      exact provides_of_mem_members hmember use ((GeneratedMember.mem_allUses_code_iff _).mp huse)

example :
    ((Entity.resolve (.ofParameters [⟨"id", .keyword "int"⟩])
      (.named "Shop" "Order" .classType)).toOption.map fun entity =>
        (of (.ofParameters [⟨"id", .keyword "int"⟩]) entity .default
          { name := "OrderBuilder" }).uses) =
      some [.preBuild, .field "_id", .field "_id", .field "_id", .postBuild, .build] := by
  decide +kernel

end GeneratedClass

end Provides

end FluentGen
