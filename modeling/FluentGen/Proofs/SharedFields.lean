import FluentGen.Proofs.Building
/-!
# Members that share a field

Fields are named after members with the case of the first character mapped, while members differ by
their exact names. Two members may therefore share a field, which has the type of the first one.

## Main definitions
* `TrackedMember.Fits`: whether the field of a tracked member has the type that a member needs.
* `BuildMethod.ReadsAgree`: whether building reads every member from a field of its own type.
* `FieldsAgree`: the same in terms of the members of the entity.

## Main statements
* `readsAgree_iff`: building reads fields of the right types exactly when `FieldsAgree` holds.
-/
namespace FluentGen

/-- Whether the field of a tracked member has the type that a member needs: a mock of its type, or
a box around it. -/
def TrackedMember.Fits (tracked : TrackedMember) (member : Member) : Prop :=
  if tracked.mockable then tracked.type.bare = member.type.bare else tracked.type = member.type

/-- Whether every member that is passed on is read from a field of its own type. -/
def BuildMethod.ReadsAgree (entity : Entity) (plan : MemberPlan) (method : BuildMethod) : Prop :=
  List.Forall₂
    (fun member value => ∀ tracked ∈ plan.tracked, value.field? = some tracked.fieldName →
      tracked.Fits member)
    (plan.passedOn entity) method.values

/-- Whether every member that is passed on, unless it is left out, has the type of each tracked
member with the same field. -/
def FieldsAgree (entity : Entity) (plan : MemberPlan) : Prop :=
  ∀ member ∈ plan.passedOn entity, plan.skips member.pascalName = false →
    ∀ tracked ∈ plan.tracked, tracked.fieldName = member.fieldName → tracked.Fits member

variable {model : Compilation} {entity : Entity} {config : Configuration} {builder : NamedType}

theorem MemberPlan.mem_candidates_of_mem_passedOn {plan : MemberPlan} {member : Member}
    (h : member ∈ plan.passedOn entity) :
    member ∈ entity.parameters ++ entity.settableForGeneration :=
  (List.filter_sublist.append_left _).subset h

/-- Members of one name have one field. -/
theorem Member.fieldName_eq_of_pascalName_eq {a b : Member} (h : a.pascalName = b.pascalName) :
    a.fieldName = b.fieldName :=
  congrArg (fun name => "_" ++ camelCase name) h

/-- A member is read from the field of its name, if it is not left out. -/
theorem BuildValue.field?_buildValue_eq_some_iff {member : Member} {field : String}
    (h : member ∈ entity.parameters ++ entity.settableForGeneration) :
    ((planMembers model entity config builder).buildValue member).field? = some field ↔
      (planMembers model entity config builder).skips member.pascalName = false ∧
        member.fieldName = field := by
  cases found : (planMembers model entity config builder).find? member.pascalName with
  | none =>
    simp [MemberPlan.buildValue, found, field?, (MemberPlan.find?_eq_none_iff_skips h).mp found]
  | some tracked =>
    obtain ⟨hmem, name⟩ := MemberPlan.find?_eq_some_iff.mp found
    have same : tracked.fieldName = member.fieldName := Member.fieldName_eq_of_pascalName_eq name
    rw [field?_of_mem hmem name, same]
    simp [← name, MemberPlan.not_skips_of_mem_tracked hmem]

theorem readsAgree_buildMethod_iff {parameters : List Member}
    (found : entity.constructorParameters = some parameters) :
    ((planMembers model entity config builder).buildMethod entity parameters).ReadsAgree entity
        (planMembers model entity config builder) ↔
      FieldsAgree entity (planMembers model entity config builder) := by
  rw [BuildMethod.ReadsAgree, MemberPlan.values_buildMethod _ found, List.forall₂_map_right_iff,
    List.forall₂_same]
  refine forall₂_congr fun member hmember => ?_
  simp only [BuildValue.field?_buildValue_eq_some_iff
    (MemberPlan.mem_candidates_of_mem_passedOn hmember)]
  constructor
  · exact fun reads kept tracked hmem same => reads tracked hmem ⟨kept, same.symm⟩
  · exact fun agree tracked hmem ⟨kept, same⟩ => agree kept tracked hmem same.symm

/-- Building reads fields of the right types exactly when members with one field agree. -/
theorem readsAgree_iff (model : Compilation) (entity : Entity) (config : Configuration)
    (builder : NamedType) :
    (∀ method, .build method ∈ (GeneratedClass.of model entity config builder).members →
      method.ReadsAgree entity (planMembers model entity config builder)) ↔
      (GeneratedClass.generatesBuild entity builder = true →
        FieldsAgree entity (planMembers model entity config builder)) := by
  constructor
  · intro reads generated
    obtain ⟨absent, some⟩ := Bool.and_eq_true_iff.mp generated
    obtain ⟨parameters, found⟩ := Option.isSome_iff_exists.mp some
    refine (readsAgree_buildMethod_iff found).mp (reads _ (GeneratedClass.mem_members_of_iff.mpr ?_))
    exact .build (by simpa using absent) found
  · intro agree method hmethod
    cases GeneratedClass.mem_members_of_iff.mp hmethod with
    | build absent found =>
      refine (readsAgree_buildMethod_iff found).mpr (agree ?_)
      simp [GeneratedClass.generatesBuild, absent, found]

/-- Two constructor parameters that differ in the case of the first character share a field. -/
theorem not_readsAgree_case : ∃ entity config method,
    Entity.resolve (.ofParameters [⟨"x", .keyword "int"⟩, ⟨"X", .keyword "string"⟩])
      (.named "Shop" "Order" .classType) = .ok entity ∧
    Configuration.ofLayers [] false = .ok config ∧
    .build method ∈ (GeneratedClass.of
      (.ofParameters [⟨"x", .keyword "int"⟩, ⟨"X", .keyword "string"⟩]) entity config
      { name := "OrderBuilder" }).members ∧
    ¬ method.ReadsAgree entity (planMembers
      (.ofParameters [⟨"x", .keyword "int"⟩, ⟨"X", .keyword "string"⟩]) entity config
      { name := "OrderBuilder" }) := by
  refine ⟨_, _, _, rfl, rfl, GeneratedClass.mem_members_of_iff.mpr (.build rfl rfl), fun reads => ?_⟩
  have agree := (readsAgree_buildMethod_iff rfl).mp reads
  have fits := agree ⟨"X", .keyword "string", .constructorParameter⟩ (by decide) (by decide) _
    List.mem_cons_self (by decide)
  exact absurd (congrArg TypeRef.name fits) (by decide)

end FluentGen
