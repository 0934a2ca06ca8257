import FluentGen.Proofs.Reporting
/-!
# Tracked or skipped

The members that a builder may track are the constructor parameters, the settable properties and, if
asked for, the read-only ones. Of those that share a name the first counts, and it is either tracked
or skipped. A hand-written field decides which, and every member that is skipped is reported.

## Main definitions
* `Entity.offered`: the members that may be tracked, names coming up more than once.
* `Partitions`: what becomes of these members in a plan and in the reports.

## Main statements
* `count_tracked_add_count_skipped`: a name belongs to one tracked or to one skipped member.
* `partitions`: every plan partitions the members that may be tracked.
-/
namespace FluentGen

/-- The members that a builder may track, in the order in which they are taken. -/
def Entity.offered (entity : Entity) (unreachable : Bool) : List Member :=
  entity.parameters ++ entity.settableForGeneration ++
    if unreachable then entity.readOnlyForGeneration else []

/-- The first member of a name. -/
def firstNamed? (members : List Member) (pascalName : String) : Option Member :=
  members.find? (·.pascalName == pascalName)

/-- Whether one member is of a name that comes up before that of another one. -/
def ComesBefore (members : List Member) (a b : Member) : Prop :=
  members.findIdx (·.pascalName == a.pascalName) < members.findIdx (·.pascalName == b.pascalName)

/-- Whether members are partitioned into those that a plan tracks and those that it skips. -/
structure Partitions (model : Compilation) (config : Configuration) (builder : NamedType)
    (members : List Member) (plan : MemberPlan) (reports : List Diagnostic) : Prop where
  /-- The name of a member belongs to one tracked or to one skipped member, and not to both. -/
  once : ∀ member ∈ members,
    (plan.tracked.map (·.member.pascalName)).count member.pascalName +
      (plan.skipped.map (·.member.pascalName)).count member.pascalName = 1
  /-- Members are skipped if they are the first of their name and a hand-written field, which has
  the name of the field behind them, has a type that does not fit. -/
  mem_skipped_iff : ∀ member, (∃ skipped ∈ plan.skipped, skipped.member = member) ↔
    firstNamed? members member.pascalName = some member ∧
      ∃ field, builder.field? member.fieldName = some field ∧
        field.isCompatible config member (classify model config member.type).mockable = false
  mem_tracked_iff : ∀ member, (∃ tracked ∈ plan.tracked, tracked.member = member) ↔
    firstNamed? members member.pascalName = some member ∧
      ∀ field, builder.field? member.fieldName = some field →
        field.isCompatible config member (classify model config member.type).mockable = true
  ordered_tracked : plan.tracked.Pairwise fun a b => ComesBefore members a.member b.member
  ordered_skipped : plan.skipped.Pairwise fun a b => ComesBefore members a.member b.member
  /-- There is one report for each skipped member, in their order. -/
  reports : reports.filter (·.kind.id == "BSG007") = plan.skipped.map (·.diagnostic builder)

variable {model : Compilation} {entity : Entity} {config : Configuration} {builder : NamedType}
  {member : Member}

theorem Entity.mem_candidates_iff {unreachable : Bool} : member ∈ entity.candidates unreachable ↔
    firstNamed? (entity.offered unreachable) member.pascalName = some member :=
  mem_distinctBy_iff

/-- Candidates stand in the order in which their names come up. -/
theorem Entity.pairwise_comesBefore_candidates (entity : Entity) (unreachable : Bool) :
    (entity.candidates unreachable).Pairwise (ComesBefore (entity.offered unreachable)) := by
  have ordered : (distinctBy Member.pascalName _).Pairwise _ :=
    pairwise_findIdx_distinctBy (fun _ => true) (entity.offered unreachable)
  simp only [List.filter_true, Bool.true_and] at ordered
  exact ordered

theorem exists_mem_tracked_iff :
    (∃ tracked ∈ (planMembers model entity config builder).tracked, tracked.member = member) ↔
      member ∈ entity.candidates config.builder.unreachableSetters ∧
        member.isBlocked model config builder = false := by
  rw [← List.mem_map, map_member_tracked, List.mem_filter, isOk_trackMember, Bool.not_eq_true']

theorem exists_mem_skipped_iff :
    (∃ skipped ∈ (planMembers model entity config builder).skipped, skipped.member = member) ↔
      member ∈ entity.candidates config.builder.unreachableSetters ∧
        member.isBlocked model config builder = true := by
  rw [← List.mem_map, map_member_skipped, List.mem_filter, isOk_trackMember, Bool.not_not]

variable (model entity config builder) in
/-- What is tracked and what is skipped are the candidates together. -/
theorem perm_candidates :
    ((planMembers model entity config builder).tracked.map (·.member) ++
      (planMembers model entity config builder).skipped.map (·.member)).Perm
        (entity.candidates config.builder.unreachableSetters) := by
  rw [map_member_tracked, map_member_skipped]
  exact List.filter_append_perm _ _

theorem count_tracked_add_count_skipped
    (h : member ∈ entity.offered config.builder.unreachableSetters) :
    ((planMembers model entity config builder).tracked.map (·.member.pascalName)).count
        member.pascalName +
      ((planMembers model entity config builder).skipped.map (·.member.pascalName)).count
        member.pascalName = 1 := by
  have names := (perm_candidates model entity config builder).map Member.pascalName
  have apart :
      ((entity.candidates config.builder.unreachableSetters).map Member.pascalName).Nodup :=
    nodup_map_distinctBy _
  obtain ⟨first, hfirst, name⟩ : ∃ first ∈ entity.candidates config.builder.unreachableSetters,
      first.pascalName = member.pascalName := exists_mem_distinctBy h
  have once := List.count_eq_one_of_mem apart (List.mem_map_of_mem hfirst)
  rw [← names.count_eq, name] at once
  simpa [List.count_append, Function.comp_def] using once

/-- What is read off some of the candidates is in their order. -/
theorem Entity.pairwise_comesBefore {α : Type} {f : α → Member} {items : List α}
    {unreachable : Bool} (h : (items.map f).Sublist (entity.candidates unreachable)) :
    items.Pairwise fun a b => ComesBefore (entity.offered unreachable) (f a) (f b) :=
  List.pairwise_map.mp ((entity.pairwise_comesBefore_candidates unreachable).sublist h)

theorem isBlocked_eq_true_iff : member.isBlocked model config builder = true ↔
    ∃ field, builder.field? member.fieldName = some field ∧
      field.isCompatible config member (classify model config member.type).mockable = false := by
  simp [Member.isBlocked, Option.any_eq_true]

theorem isBlocked_eq_false_iff : member.isBlocked model config builder = false ↔
    ∀ field, builder.field? member.fieldName = some field →
      field.isCompatible config member (classify model config member.type).mockable = true := by
  simp [Member.isBlocked, Option.any_eq_false]

/-- Only skipped members are reported as such. -/
theorem filter_diagnostics_synthesize :
    (synthesize model entity config builder).diagnostics.filter (·.kind.id == "BSG007") =
      (planMembers model entity config builder).skipped.map (·.diagnostic builder) := by
  have others : ∀ report ∈ buildingDiagnostics entity builder, report.kind.id ≠ "BSG007" := by
    intro report hreport
    have mem := List.mem_map_of_mem (f := (·.kind.id)) hreport
    rw [map_id_buildingDiagnostics] at mem
    grind
  have skipped : ∀ report ∈ (planMembers model entity config builder).skipped.map
      (·.diagnostic builder), report.kind.id = "BSG007" := by
    simp [SkippedMember.diagnostic, DiagnosticKind.id]
  rw [diagnostics_synthesize, List.filter_append,
    List.filter_eq_self.mpr fun report h => beq_iff_eq.mpr (skipped report h),
    List.filter_eq_nil_iff.mpr fun report h same => others report h (beq_iff_eq.mp same),
    List.append_nil]

variable (model entity config builder) in
/-- Every plan partitions the members that may be tracked, and the reports tell which are
skipped. -/
theorem partitions : Partitions model config builder
    (entity.offered config.builder.unreachableSetters) (planMembers model entity config builder)
    (synthesize model entity config builder).diagnostics where
  once _ := count_tracked_add_count_skipped
  mem_skipped_iff member := by
    rw [exists_mem_skipped_iff, Entity.mem_candidates_iff, isBlocked_eq_true_iff]
  mem_tracked_iff member := by
    rw [exists_mem_tracked_iff, Entity.mem_candidates_iff, isBlocked_eq_false_iff]
  ordered_tracked := Entity.pairwise_comesBefore (map_member_tracked ▸ List.filter_sublist)
  ordered_skipped := Entity.pairwise_comesBefore (map_member_skipped ▸ List.filter_sublist)
  reports := filter_diagnostics_synthesize

end FluentGen
