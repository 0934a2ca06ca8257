import FluentGen.Proofs.Declarations
import FluentGen.Proofs.Overloads
import FluentGen.Proofs.Signatures
/-!
# Fields and methods for members

For every tracked member the generated class has a field, a setter and, for a collection, a method
that appends, unless the author wrote them. What the author wrote is recognised by its name and the
type of its parameter. The setter of a mock takes a delegate of whatever type, so any hand-written
method of its name with a delegate stands for it; and a type passes for a delegate also if it is only
called `Action`.

## Main definitions
* `TrackedMember.HasWrittenSetter`, `TrackedMember.HasWrittenAddTo`: hand-written methods for a
  member.
* `GeneratedClass.CompletesMembers`: what is hand-written is not in a text, and all else is once.

## Main statements
* `setterNames_membersOf`, `addToNames_membersOf`: the members that methods are generated for.
* `completesMembers_of`: generated texts complete what is hand-written.
-/
namespace FluentGen

/-- Whether a generated method is for one member of the entity. -/
def GeneratedMember.isForMember : GeneratedMember → Bool
  | .setter _ | .addTo .. => true
  | _ => false

/-- The name of the member that a setter is for. -/
def GeneratedMember.setterFor? : GeneratedMember → Option String
  | .setter tracked => some tracked.member.pascalName
  | _ => none

/-- The name of the member that a method appends to. -/
def GeneratedMember.addToFor? : GeneratedMember → Option String
  | .addTo tracked _ => some tracked.member.pascalName
  | _ => none

/-- Whether the author wrote the setter of a member: a method of its name with one parameter, which
is a delegate if a mock stands behind the member and has the name of its type otherwise. -/
def TrackedMember.HasWrittenSetter (isDelegate : TypeRef → Prop) (config : Configuration)
    (builder : NamedType) (tracked : TrackedMember) : Prop :=
  builder.TakesOne (tracked.setterName config) fun written =>
    if tracked.mockable then isDelegate written else written.SameName tracked.type

/-- Whether the author wrote the method that appends to a collection: one of its name with one
parameter, which is called like an array of items. -/
def TrackedMember.HasWrittenAddTo (builder : NamedType) (tracked : TrackedMember)
    (collection : Collection) : Prop :=
  builder.TakesOne tracked.addToName (·.SameName (.arrayOf collection.itemType))

namespace GeneratedClass

/-- The text of a class has what members need and the author did not write, given which types are
delegates. -/
structure CompletesMembers (isDelegate : TypeRef → Prop) (builder : NamedType) (plan : MemberPlan)
    (c : GeneratedClass) (text : String) : Prop where
  /-- The text consists of the declarations of the class. -/
  written : c.IsWrittenIn text
  /-- Fields are declared under their names. -/
  field_written : ∀ field ∈ c.fields, ∃ type value,
    field.layout c.config = .line ("private " ++ type ++ " " ++ field.name ++ value ++ ";")
  /-- Setters are declared under their names, with their parameters. -/
  setter_written : ∀ tracked, .setter tracked ∈ c.members →
    (tracked.setterSignature c.config).Heads (GeneratedMember.layout c (.setter tracked))
  /-- So are methods that append. -/
  addTo_written : ∀ tracked collection, .addTo tracked collection ∈ c.members →
    (tracked.addToSignature collection).Heads (GeneratedMember.layout c (.addTo tracked collection))
  /-- No generated field has the name of a hand-written one. -/
  fields : ∀ field ∈ c.fields, ∀ written ∈ builder.fields, written.name ≠ field.name
  /-- No hand-written setter is generated. -/
  setters : ∀ tracked, .setter tracked ∈ c.members →
    ¬ tracked.HasWrittenSetter isDelegate c.config builder
  /-- No hand-written method that appends is generated. -/
  addTos : ∀ tracked collection, .addTo tracked collection ∈ c.members →
    ¬ tracked.HasWrittenAddTo builder collection
  /-- Any other setter is generated once. -/
  setter_once : ∀ tracked ∈ plan.tracked, ¬ tracked.HasWrittenSetter isDelegate c.config builder →
    (c.members.filterMap GeneratedMember.setterFor?).count tracked.member.pascalName = 1
  /-- Any other method that appends is generated once if the member is a collection and not mocked,
  and not at all if it is not. -/
  addTo_once : ∀ tracked ∈ plan.tracked,
    (∀ collection, tracked.classification.collection = some collection →
      ¬ tracked.HasWrittenAddTo builder collection) →
    (c.members.filterMap GeneratedMember.addToFor?).count tracked.member.pascalName =
      if tracked.mockable = false ∧ tracked.classification.collection.isSome then 1 else 0

variable {model : Compilation} {entity : Entity} {config : Configuration} {builder : NamedType}
  {plan : MemberPlan} {tracked : TrackedMember}

theorem name_ne_of_mem_fields {field : GeneratedField} {written : Field}
    (h : field ∈ (of model entity config builder).fields) (hwritten : written ∈ builder.fields) :
    written.name ≠ field.name := by
  obtain hfield | hfield := List.mem_append.mp h
  · split at hfield
    next generated =>
      obtain rfl := List.mem_singleton.mp hfield
      have absent := NamedType.field?_eq_none_iff.mp (Option.isNone_iff_eq_none.mp generated.2)
      exact absent written hwritten
    next => cases hfield
  · obtain ⟨tracked, hmem, rfl⟩ := List.mem_map.mp hfield
    obtain ⟨hmem, declares⟩ := List.mem_filter.mp hmem
    rw [(mem_tracked_iff.mp hmem).2.declaresField, Option.isNone_iff_eq_none] at declares
    exact NamedType.field?_eq_none_iff.mp declares written hwritten

/-! ## Which methods are generated -/

theorem hasSetter_iff : tracked.hasSetter config builder = true ↔
    tracked.HasWrittenSetter TypeRef.PassesForDelegate config builder := by
  cases mock : tracked.mockable <;>
    simp [TrackedMember.hasSetter, TrackedMember.HasWrittenSetter, mock, NamedType.hasOverload_iff,
      NamedType.hasDelegateOverload_iff]

theorem isSome_addTo?_iff : (tracked.addTo? builder).isSome = true ↔
    tracked.mockable = false ∧ ∃ collection, tracked.classification.collection = some collection ∧
      ¬ tracked.HasWrittenAddTo builder collection := by
  simp only [Option.isSome_iff_exists, TrackedMember.addTo?_eq_some_iff,
    TrackedMember.HasWrittenAddTo, ← NamedType.hasOverload_iff, Bool.not_eq_true]
  grind

/-- A kind of methods that each tracked member has one of or none is generated for the members that
have one, in order. -/
theorem filterMap_membersOf {f : GeneratedMember → Option String} {has : TrackedMember → Bool}
    (others : ∀ member, member.isForMember = false → f member = none)
    (one : ∀ tracked, (settersOf config builder tracked).filterMap f =
      if has tracked then [tracked.member.pascalName] else []) :
    (membersOf entity config builder plan).filterMap f =
      (plan.tracked.filter has).map (·.member.pascalName) := by
  have constructors : (if generatesConstructor builder then [constructorOf config plan]
      else []).filterMap f = [] := by
    refine List.filterMap_eq_nil_iff.mpr fun member hmember => others member ?_
    obtain rfl := List.mem_singleton.mp (List.mem_ite_nil_right.mp hmember).2
    rfl
  have builders : (buildersOf entity config builder plan).filterMap f = [] := by
    refine List.filterMap_eq_nil_iff.mpr fun member hmember => others member ?_
    obtain ⟨_, -, -, rfl⟩ | ⟨-, -, rfl⟩ | ⟨_, -, -, -, rfl⟩ := mem_buildersOf_iff.mp hmember <;> rfl
  have creators : (creatorsOf entity config builder).filterMap f = [] :=
    filterMap_creatorsOf_eq_nil (fun _ => others _ rfl) (others _ rfl) (others _ rfl)
  have hooks : (hooksOf entity builder plan).filterMap f = [] :=
    filterMap_hooksOf_eq_nil (others _ rfl) (others _ rfl) (others _ rfl)
  simp only [membersOf, List.filterMap_append, constructors, builders, creators, hooks,
    List.nil_append, List.append_nil, List.filterMap_flatMap]
  induction plan.tracked with
  | nil => rfl
  | cons tracked rest ih =>
    rw [List.flatMap_cons, ih, one, List.filter_cons]
    split <;> rfl

/-- Setters are generated for the tracked members whose setters are not hand-written. -/
theorem setterNames_membersOf :
    (membersOf entity config builder plan).filterMap GeneratedMember.setterFor? =
      (plan.tracked.filter fun tracked => !tracked.hasSetter config builder).map
        (·.member.pascalName) := by
  refine filterMap_membersOf (fun member h => by cases member <;> trivial) fun tracked => ?_
  have added : (tracked.addTo? builder).toList.filterMap GeneratedMember.setterFor? = [] := by
    refine List.filterMap_eq_nil_iff.mpr fun member hmember => ?_
    obtain ⟨collection, -, -, -, rfl⟩ :=
      TrackedMember.addTo?_eq_some_iff.mp (Option.mem_toList.mp hmember)
    rfl
  rw [settersOf, List.filterMap_append, added, TrackedMember.setter?]
  cases tracked.hasSetter config builder <;> rfl

/-- Methods that append are generated for the collections whose methods are not hand-written. -/
theorem addToNames_membersOf :
    (membersOf entity config builder plan).filterMap GeneratedMember.addToFor? =
      (plan.tracked.filter fun tracked => (tracked.addTo? builder).isSome).map
        (·.member.pascalName) := by
  refine filterMap_membersOf (fun member h => by cases member <;> trivial) fun tracked => ?_
  have set : (tracked.setter? config builder).toList.filterMap GeneratedMember.addToFor? = [] := by
    cases written : tracked.hasSetter config builder <;>
      simp [TrackedMember.setter?, written, GeneratedMember.addToFor?]
  rw [settersOf, List.filterMap_append, set, List.nil_append]
  cases added : tracked.addTo? builder with
  | none => rfl
  | some member =>
    obtain ⟨collection, -, -, -, rfl⟩ := TrackedMember.addTo?_eq_some_iff.mp added
    rfl

/-- Names that are taken from different tracked members come up once. -/
theorem count_pascalName {has : TrackedMember → Bool}
    (h : tracked ∈ (planMembers model entity config builder).tracked) :
    (((planMembers model entity config builder).tracked.filter has).map
      (·.member.pascalName)).count tracked.member.pascalName = if has tracked then 1 else 0 := by
  have apart : (((planMembers model entity config builder).tracked.filter has).map
      (·.member.pascalName)).Nodup :=
    List.pairwise_map.mpr (pairwise_tracked.filter has)
  split
  next held =>
    exact List.count_eq_one_of_mem apart (List.mem_map_of_mem (List.mem_filter.mpr ⟨h, held⟩))
  next held =>
    refine List.count_eq_zero.mpr fun hname => held ?_
    obtain ⟨other, hother, name⟩ := List.mem_map.mp hname
    obtain ⟨hother, held⟩ := List.mem_filter.mp hother
    exact eq_of_mem_tracked hother h name ▸ held

variable (model entity config builder) in
/-- Generated texts have what members need and the author did not write, where a type that is only
called `Action` passes for a delegate. -/
theorem completesMembers_of :
    (of model entity config builder).CompletesMembers TypeRef.PassesForDelegate builder
      (planMembers model entity config builder) (synthesize model entity config builder).text where
  written := isWrittenIn_sourceText _
  field_written field _ := by
    cases field with
    | fixture =>
      refine ⟨"readonly " ++ config.fixture.typeName, " = new " ++ config.fixture.typeName ++ "(" ++
        config.fixture.constructorArguments.getD "" ++ ")", ?_⟩
      simp [GeneratedField.layout, GeneratedField.name, of, ofPlan, ← String.toList_inj]
    | backing tracked => exact ⟨_, _, rfl⟩
  setter_written _ _ := GeneratedMember.heads_of_signature? rfl
  addTo_written _ _ _ := GeneratedMember.heads_of_signature? rfl
  fields _ hfield _ hwritten := name_ne_of_mem_fields hfield hwritten
  setters tracked hmember := by
    cases mem_members_of_iff.mp hmember with
    | setter _ absent =>
      exact fun written => Bool.noConfusion (absent.symm.trans (hasSetter_iff.mpr written))
  addTos tracked collection hmember written := by
    cases mem_members_of_iff.mp hmember with
    | addTo _ added =>
      obtain ⟨_, -, -, absent, same⟩ := TrackedMember.addTo?_eq_some_iff.mp added
      cases same
      rw [NamedType.hasOverload_iff.mpr written] at absent
      cases absent
  setter_once tracked hmem absent := by
    have generated : tracked.hasSetter config builder = false :=
      Bool.eq_false_iff.mpr fun written => absent (hasSetter_iff.mp written)
    simp only [of, ofPlan, setterNames_membersOf, count_pascalName hmem, generated]
    rfl
  addTo_once tracked hmem absent := by
    simp only [of, ofPlan, addToNames_membersOf, count_pascalName hmem]
    refine if_congr (isSome_addTo?_iff.trans (and_congr_right fun _ => ?_)) rfl rfl
    rw [Option.isSome_iff_exists]
    exact exists_congr fun collection => and_iff_left_of_imp (absent collection)

/-- A hand-written class with a setter that takes a class called `Action`. -/
def actionBuilder : NamedType where
  name := "OrderBuilder"
  methods := [{ name := "WithRepo", parameters := [⟨"action", .named "Shop" "Action" .classType⟩] }]

/-- A class that is called `Action` passes for a delegate, so the setter of a mock is left out. -/
theorem not_completesMembers_action : ∃ entity config,
    Entity.resolve (.ofParameters [⟨"repo", .named "Shop" "IRepo" .interfaceType⟩])
      (.named "Shop" "Order" .classType) = .ok entity ∧
    Configuration.ofLayers [⟨.invocation, { mocking := { strategy := some .all } }⟩] false =
      .ok config ∧
    ¬ (of (.ofParameters [⟨"repo", .named "Shop" "IRepo" .interfaceType⟩]) entity config
      actionBuilder).CompletesMembers (·.kind = .delegateType) actionBuilder
        (planMembers (.ofParameters [⟨"repo", .named "Shop" "IRepo" .interfaceType⟩]) entity config
          actionBuilder)
        (synthesize (.ofParameters [⟨"repo", .named "Shop" "IRepo" .interfaceType⟩]) entity config
          actionBuilder).text := by
  refine ⟨_, _, rfl, rfl, fun completes => ?_⟩
  have once := completes.setter_once _ List.mem_cons_self ?_
  · exact absurd once (by decide +kernel)
  · rintro ⟨method, hmem, -, parameter, same, isDelegate⟩
    obtain rfl := List.mem_singleton.mp hmem
    cases same
    exact absurd isDelegate (by decide +kernel)

end GeneratedClass

end FluentGen
