import FluentGen.Proofs.DistinctBy
import FluentGen.TrackedMember
import Mathlib.Data.List.Nodup
/-!
# Tracked and skipped members

Every name among the candidates of an entity belongs to exactly one member of the plan, which is
either tracked or skipped, and a hand-written field alone decides which.

## Main definitions
* `TrackedMember.Planned`, `SkippedMember.Planned`: what tracking a member comes to.

## Main statements
* `mem_tracked_iff`, `mem_skipped_iff`: the members of a plan.
* `pairwise_tracked`: tracked members have different names.
* `MemberPlan.find?_eq_some_iff`: a search by name finds the tracked member of that name.
* `find?_eq_none_iff_skips`: a name in question that is not tracked is skipped.
-/
namespace FluentGen

variable {model : Compilation} {entity : Entity} {config : Configuration} {builder : NamedType}

/-- What is known of a member that is tracked. -/
structure TrackedMember.Planned (model : Compilation) (config : Configuration)
    (builder : NamedType) (tracked : TrackedMember) : Prop where
  classification : tracked.classification = classify model config tracked.type
  declaresField : tracked.declaresField = (builder.field? tracked.fieldName).isNone
  /-- A hand-written field in its place has a type that fits. -/
  compatible : ∀ field, builder.field? tracked.fieldName = some field →
    field.isCompatible config tracked.member tracked.mockable = true
  defaultField : tracked.defaultField =
    if tracked.classification.needsExplicitDefault && tracked.declaresField then
      (builder.defaultField? tracked.member.pascalName).map (·.name)
    else none

/-- What is known of a member that is skipped. -/
structure SkippedMember.Planned (model : Compilation) (config : Configuration)
    (builder : NamedType) (skipped : SkippedMember) : Prop where
  field : builder.field? skipped.member.fieldName = some skipped.field
  incompatible : skipped.field.isCompatible config skipped.member
    (classify model config skipped.member.type).mockable = false
  fieldType : skipped.fieldType =
    FluentGen.fieldType config skipped.member (classify model config skipped.member.type).mockable

theorem trackMember_eq_ok_iff {member : Member} {tracked : TrackedMember} :
    trackMember model config builder member = .ok tracked ↔
      tracked.member = member ∧ tracked.Planned model config builder := by
  constructor
  · intro h
    simp only [trackMember] at h
    split at h
    next absent =>
      obtain rfl := Except.ok.inj h
      exact ⟨rfl, ⟨rfl, by simp [TrackedMember.fieldName, absent],
        by simp [TrackedMember.fieldName, absent], rfl⟩⟩
    next field present =>
      split at h
      next fits =>
        obtain rfl := Except.ok.inj h
        refine ⟨rfl, ⟨rfl, by simp [TrackedMember.fieldName, present], ?_, rfl⟩⟩
        intro other hother
        obtain rfl := Option.some.inj (present.symm.trans hother)
        exact fits
      next => cases h
  · rintro ⟨rfl, classified, declares, compatible, initialised⟩
    obtain ⟨member, classification, declaresField, defaultField⟩ := tracked
    simp only [TrackedMember.type, TrackedMember.fieldName, TrackedMember.mockable] at *
    subst classified declares initialised
    cases present : builder.field? member.fieldName with
    | none => simp [trackMember, present]
    | some field => simp [trackMember, present, compatible field present]

theorem trackMember_eq_error_iff {member : Member} {skipped : SkippedMember} :
    trackMember model config builder member = .error skipped ↔
      skipped.member = member ∧ skipped.Planned model config builder := by
  constructor
  · intro h
    simp only [trackMember] at h
    split at h
    next => cases h
    next field present =>
      split at h
      next => cases h
      next clash =>
        obtain rfl := Except.error.inj h
        exact ⟨rfl, ⟨present, by simpa using clash, rfl⟩⟩
  · rintro ⟨rfl, present, clash, type⟩
    obtain ⟨member, field, fieldType⟩ := skipped
    simp only at present clash type
    simp [trackMember, present, clash, type]

theorem mem_tracked_iff {tracked : TrackedMember} :
    tracked ∈ (planMembers model entity config builder).tracked ↔
      tracked.member ∈ entity.candidates config.builder.unreachableSetters ∧
        tracked.Planned model config builder := by
  simp only [planMembers, List.filterMap_map, List.mem_filterMap, Function.comp_apply]
  constructor
  · rintro ⟨member, hmember, h⟩
    cases outcome : trackMember model config builder member with
    | error => simp [outcome] at h
    | ok found =>
      simp only [outcome, Option.some.injEq] at h
      obtain ⟨rfl, planned⟩ := trackMember_eq_ok_iff.mp outcome
      exact h ▸ ⟨hmember, planned⟩
  · rintro ⟨hmember, planned⟩
    exact ⟨_, hmember, by rw [trackMember_eq_ok_iff.mpr ⟨rfl, planned⟩]⟩

theorem mem_skipped_iff {skipped : SkippedMember} :
    skipped ∈ (planMembers model entity config builder).skipped ↔
      skipped.member ∈ entity.candidates config.builder.unreachableSetters ∧
        skipped.Planned model config builder := by
  simp only [planMembers, List.filterMap_map, List.mem_filterMap, Function.comp_apply]
  constructor
  · rintro ⟨member, hmember, h⟩
    cases outcome : trackMember model config builder member with
    | ok => simp [outcome] at h
    | error found =>
      simp only [outcome, Option.some.injEq] at h
      obtain ⟨rfl, planned⟩ := trackMember_eq_error_iff.mp outcome
      exact h ▸ ⟨hmember, planned⟩
  · rintro ⟨hmember, planned⟩
    exact ⟨_, hmember, by rw [trackMember_eq_error_iff.mpr ⟨rfl, planned⟩]⟩

/-- Tracked members stand in the order of the candidates. -/
theorem map_member_tracked :
    (planMembers model entity config builder).tracked.map (·.member) =
      (entity.candidates config.builder.unreachableSetters).filter fun member =>
        (trackMember model config builder member).isOk := by
  simp only [planMembers, List.filterMap_map, List.map_filterMap]
  rw [← List.filterMap_eq_filter]
  refine congrArg (List.filterMap · _) (funext fun member => ?_)
  cases outcome : trackMember model config builder member with
  | error => simp [outcome, Option.guard, Except.isOk, Except.toBool]
  | ok tracked =>
    simp [outcome, Option.guard, Except.isOk, Except.toBool, (trackMember_eq_ok_iff.mp outcome).1]

/-- Skipped members stand in the order of the candidates. -/
theorem map_member_skipped :
    (planMembers model entity config builder).skipped.map (·.member) =
      (entity.candidates config.builder.unreachableSetters).filter fun member =>
        !(trackMember model config builder member).isOk := by
  simp only [planMembers, List.filterMap_map, List.map_filterMap]
  rw [← List.filterMap_eq_filter]
  refine congrArg (List.filterMap · _) (funext fun member => ?_)
  cases outcome : trackMember model config builder member with
  | ok => simp [outcome, Option.guard, Except.isOk, Except.toBool]
  | error skipped =>
    simp [outcome, Option.guard, Except.isOk, Except.toBool, (trackMember_eq_error_iff.mp outcome).1]

/-- Candidates have different names. -/
theorem Entity.pairwise_candidates (unreachable : Bool) :
    (entity.candidates unreachable).Pairwise fun a b => a.pascalName ≠ b.pascalName :=
  pairwise_distinctBy _ _

/-- Tracked members have different names. -/
theorem pairwise_tracked : (planMembers model entity config builder).tracked.Pairwise
    fun a b => a.member.pascalName ≠ b.member.pascalName := by
  have apart := (entity.pairwise_candidates config.builder.unreachableSetters).filter fun member =>
    (trackMember model config builder member).isOk
  rw [← map_member_tracked, List.pairwise_map] at apart
  exact apart

/-- Two tracked members of one name are the same. -/
theorem eq_of_mem_tracked {a b : TrackedMember}
    (ha : a ∈ (planMembers model entity config builder).tracked)
    (hb : b ∈ (planMembers model entity config builder).tracked)
    (h : a.member.pascalName = b.member.pascalName) : a = b :=
  List.inj_on_of_nodup_map (List.pairwise_map.mpr pairwise_tracked) ha hb h

theorem nodup_tracked : (planMembers model entity config builder).tracked.Nodup :=
  pairwise_tracked.imp fun {_ _} apart eq => apart (congrArg (·.member.pascalName) eq)

/-- Every name in question is the name of a candidate. -/
theorem Entity.exists_mem_candidates (unreachable : Bool) {member : Member}
    (h : member ∈ entity.parameters ++ entity.settableForGeneration) :
    ∃ first ∈ entity.candidates unreachable, first.pascalName = member.pascalName :=
  exists_mem_distinctBy (List.mem_append_left _ h)

/-- A candidate with the name of a constructor parameter or settable property is one itself. -/
theorem Entity.mem_of_mem_candidates {unreachable : Bool} {first member : Member}
    (h : first ∈ entity.candidates unreachable)
    (h' : member ∈ entity.parameters ++ entity.settableForGeneration)
    (name : first.pascalName = member.pascalName) :
    first ∈ entity.parameters ++ entity.settableForGeneration := by
  have found := mem_distinctBy_iff.mp h
  rw [List.find?_append] at found
  cases early : (entity.parameters ++ entity.settableForGeneration).find?
      (·.pascalName == first.pascalName) with
  | none => simpa [name] using List.find?_eq_none.mp early member h'
  | some other =>
    rw [early, Option.some_or] at found
    exact Option.some.inj found ▸ List.mem_of_find?_eq_some early

namespace MemberPlan

/-- A search by name finds the tracked member of that name. -/
theorem find?_eq_some_iff {pascalName : String} {tracked : TrackedMember} :
    (planMembers model entity config builder).find? pascalName = some tracked ↔
      tracked ∈ (planMembers model entity config builder).tracked ∧
        tracked.member.pascalName = pascalName := by
  constructor
  · intro h
    exact ⟨List.mem_of_find?_eq_some h, by simpa using List.find?_some h⟩
  · rintro ⟨hmem, rfl⟩
    cases found : (planMembers model entity config builder).find? tracked.member.pascalName with
    | none => simpa using List.find?_eq_none.mp found tracked hmem
    | some other =>
      have hother := List.mem_of_find?_eq_some found
      have name : other.member.pascalName = tracked.member.pascalName := by
        simpa using List.find?_some found
      exact congrArg some (eq_of_mem_tracked hother hmem name)

theorem find?_eq_none_iff {pascalName : String} :
    (planMembers model entity config builder).find? pascalName = none ↔
      ∀ tracked ∈ (planMembers model entity config builder).tracked,
        tracked.member.pascalName ≠ pascalName := by
  simp [MemberPlan.find?]

theorem skips_iff {pascalName : String} :
    (planMembers model entity config builder).skips pascalName = true ↔
      ∃ skipped ∈ (planMembers model entity config builder).skipped,
        skipped.member.pascalName = pascalName := by
  simp [MemberPlan.skips]

/-- No name is both tracked and skipped. -/
theorem not_skips_of_mem_tracked {tracked : TrackedMember}
    (h : tracked ∈ (planMembers model entity config builder).tracked) :
    (planMembers model entity config builder).skips tracked.member.pascalName = false := by
  rw [Bool.eq_false_iff, ne_eq, skips_iff]
  rintro ⟨skipped, hskipped, name⟩
  obtain ⟨hmember, clash⟩ := mem_skipped_iff.mp hskipped
  obtain ⟨hcandidate, planned⟩ := mem_tracked_iff.mp h
  have same : skipped.member = tracked.member :=
    List.inj_on_of_nodup_map (List.pairwise_map.mpr (entity.pairwise_candidates _))
      hmember hcandidate name
  have ok := trackMember_eq_ok_iff.mpr ⟨rfl, planned⟩
  rw [← same, trackMember_eq_error_iff.mpr ⟨rfl, clash⟩] at ok
  cases ok

/-- The name of a constructor parameter or settable property is skipped if it is not tracked. -/
theorem find?_eq_none_iff_skips {member : Member}
    (h : member ∈ entity.parameters ++ entity.settableForGeneration) :
    (planMembers model entity config builder).find? member.pascalName = none ↔
      (planMembers model entity config builder).skips member.pascalName = true := by
  obtain ⟨first, hfirst, name⟩ := Entity.exists_mem_candidates config.builder.unreachableSetters h
  rw [← name]
  cases outcome : trackMember model config builder first with
  | ok tracked =>
    obtain ⟨rfl, planned⟩ := trackMember_eq_ok_iff.mp outcome
    have hmem := mem_tracked_iff.mpr ⟨hfirst, planned⟩
    simp [find?_eq_some_iff.mpr ⟨hmem, rfl⟩, not_skips_of_mem_tracked hmem]
  | error skipped =>
    obtain ⟨rfl, planned⟩ := trackMember_eq_error_iff.mp outcome
    have skips := skips_iff.mpr ⟨skipped, mem_skipped_iff.mpr ⟨hfirst, planned⟩, rfl⟩
    refine ⟨fun _ => skips, fun _ => find?_eq_none_iff.mpr fun tracked hmem eq => ?_⟩
    rw [← eq, not_skips_of_mem_tracked hmem] at skips
    cases skips

end MemberPlan

end FluentGen
