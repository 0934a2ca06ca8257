import FluentGen.Proofs.Declarations
import FluentGen.Proofs.EntityShape
import FluentGen.Proofs.Template
/-!
# Building from tracked members

The method that builds makes its lists from the entity, the setters theirs from the plan. Both
agree: every parameter and property is passed on once, and no tracked member is left unread.

## Main definitions
* `GeneratedMember.build?`: the method that builds, if a member is one.
* `MemberPlan.passedOn`: the members whose values building passes on.
* `MemberPlan.Supplies`: what the value of a member has to be.
* `BuildMethod.Covers`: what the method that builds does with an entity and a plan.

## Main statements
* `covers_of_resolve`: exactly one method that builds is written, and it covers the entity.
-/
namespace FluentGen

/-- The field that a value comes from, if it comes from one. -/
def BuildValue.field? : BuildValue → Option String
  | .mocked field | .boxed field _ => some field
  | .untracked _ => none

/-- The method that builds, of a member that is one. -/
def GeneratedMember.build? : GeneratedMember → Option BuildMethod
  | .build method => some method
  | _ => none

/-- The values that building passes on, those of constructor parameters first. -/
def BuildMethod.values (method : BuildMethod) : List BuildValue :=
  method.arguments ++ method.initializers.map (·.value)

namespace MemberPlan

/-- The members whose values building passes on: constructor parameters, and settable properties
that are not left out. -/
def passedOn (plan : MemberPlan) (entity : Entity) : List Member :=
  entity.parameters ++
    entity.settableForGeneration.filter fun property => !plan.skips property.pascalName

/-- Whether a value is that of a member: what its field holds, or the default of its type if the
member is left out. -/
def Supplies (plan : MemberPlan) (member : Member) (value : BuildValue) : Prop :=
  if plan.skips member.pascalName then value = .untracked member.type
  else ∃ tracked ∈ plan.tracked, tracked.member.pascalName = member.pascalName ∧
    value = if tracked.mockable then .mocked tracked.fieldName
      else .boxed tracked.fieldName member.type

end MemberPlan

variable {model : Compilation} {entity : Entity} {config : Configuration} {builder : NamedType}

/-! ## Values -/

theorem MemberPlan.values_buildMethod (plan : MemberPlan) {parameters : List Member}
    (h : entity.constructorParameters = some parameters) :
    (plan.buildMethod entity parameters).values = (plan.passedOn entity).map plan.buildValue := by
  simp [BuildMethod.values, buildMethod, passedOn, Entity.parameters, h, Function.comp_def]

theorem MemberPlan.buildValue_of_mem {tracked : TrackedMember} {member : Member}
    (h : tracked ∈ (planMembers model entity config builder).tracked)
    (name : tracked.member.pascalName = member.pascalName) :
    (planMembers model entity config builder).buildValue member =
      if tracked.mockable then .mocked tracked.fieldName
      else .boxed tracked.fieldName member.type := by
  simp [buildValue, find?_eq_some_iff.mpr ⟨h, name⟩]

theorem MemberPlan.supplies_buildValue {member : Member}
    (h : member ∈ entity.parameters ++ entity.settableForGeneration) :
    (planMembers model entity config builder).Supplies member
      ((planMembers model entity config builder).buildValue member) := by
  cases found : (planMembers model entity config builder).find? member.pascalName with
  | none => simp [Supplies, (find?_eq_none_iff_skips h).mp found, buildValue, found]
  | some tracked =>
    obtain ⟨hmem, name⟩ := find?_eq_some_iff.mp found
    have skips := not_skips_of_mem_tracked hmem
    rw [name] at skips
    rw [Supplies, if_neg (by simp [skips])]
    exact ⟨tracked, hmem, name, buildValue_of_mem hmem name⟩

theorem BuildValue.field?_of_mem {tracked : TrackedMember} {member : Member}
    (h : tracked ∈ (planMembers model entity config builder).tracked)
    (name : tracked.member.pascalName = member.pascalName) :
    ((planMembers model entity config builder).buildValue member).field? =
      some tracked.fieldName := by
  rw [MemberPlan.buildValue_of_mem h name]
  split <;> rfl

/-! ## Unreachable members -/

/-- A candidate that only reflection can assign is a read-only property. -/
theorem Entity.mem_readOnlyForGeneration_of_mem_candidates (wellFormed : entity.WellFormed)
    {unreachable : Bool} {member : Member} (h : member ∈ entity.candidates unreachable)
    (kind : member.kind = .readOnlyProperty) : member ∈ entity.readOnlyForGeneration := by
  obtain hmember | hmember := List.mem_append.mp (mem_of_mem_distinctBy h)
  · obtain hmember | hmember := List.mem_append.mp hmember
    · simp [wellFormed.kind_parameters _ hmember] at kind
    · simp [wellFormed.kind_settable _ (List.mem_of_mem_filter hmember)] at kind
  · split at hmember
    · exact hmember
    · cases hmember

/-- The tracked members that only reflection can assign are the tracked read-only properties. -/
theorem MemberPlan.mem_unreachable_iff (wellFormed : entity.WellFormed) {tracked : TrackedMember} :
    tracked ∈ (planMembers model entity config builder).unreachable ↔
      tracked ∈ (planMembers model entity config builder).tracked ∧
        tracked.member ∈ entity.readOnlyForGeneration := by
  simp only [unreachable, List.mem_filter, beq_iff_eq]
  refine and_congr_right fun hmem => ⟨fun kind => ?_, fun hmember => ?_⟩
  · have hcandidate := (mem_tracked_iff.mp hmem).1
    exact Entity.mem_readOnlyForGeneration_of_mem_candidates wellFormed hcandidate kind
  · exact wellFormed.kind_readOnly _ (List.mem_of_mem_filter hmember)

/-- No unreachable member has the name of a property that is passed on. -/
theorem MemberPlan.pascalName_ne_of_mem_unreachable (wellFormed : entity.WellFormed)
    {member : Member} {tracked : TrackedMember}
    (h : member ∈ entity.parameters ++ entity.settableForGeneration)
    (h' : tracked ∈ (planMembers model entity config builder).unreachable) :
    tracked.member.pascalName ≠ member.pascalName := by
  intro name
  obtain ⟨hmem, kind⟩ := List.mem_filter.mp h'
  have early := Entity.mem_of_mem_candidates (mem_tracked_iff.mp hmem).1 h name
  obtain hmember | hmember := List.mem_append.mp early
  · simp [wellFormed.kind_parameters _ hmember] at kind
  · simp [wellFormed.kind_settable _ (List.mem_of_mem_filter hmember)] at kind

/-- Every tracked member is passed on or unreachable. -/
theorem MemberPlan.mem_passedOn_or_mem_unreachable {tracked : TrackedMember}
    (wellFormed : entity.WellFormed)
    (h : tracked ∈ (planMembers model entity config builder).tracked) :
    tracked.member ∈ (planMembers model entity config builder).passedOn entity ∨
      tracked ∈ (planMembers model entity config builder).unreachable := by
  obtain hmember | hmember :=
    List.mem_append.mp (mem_of_mem_distinctBy (mem_tracked_iff.mp h).1)
  · obtain hmember | hmember := List.mem_append.mp hmember
    · exact .inl (List.mem_append_left _ hmember)
    · exact .inl (List.mem_append_right _
        (List.mem_filter.mpr ⟨hmember, by simp [not_skips_of_mem_tracked h]⟩))
  · split at hmember
    · exact .inr ((mem_unreachable_iff wellFormed).mpr ⟨h, hmember⟩)
    · cases hmember

/-! ## The text of the method that builds -/

/-- A value that comes from a field shows the field, unless a mock is not asked for its object. -/
theorem BuildValue.within_text {value : BuildValue} {field : String}
    (h : value.field? = some field)
    (uses : ∀ mock, value = .mocked mock → Text.UsesArgument config.mocking.objectFormat) :
    Within field (value.text config) := by
  cases value with
  | mocked mock =>
    obtain rfl := Option.some.inj h
    exact Text.infix_expand_of_usesArgument (uses mock rfl) mock
  | boxed box type =>
    obtain rfl := Option.some.inj h
    simp only [text, String.append_assoc]
    exact (Within.refl box).append_right _
  | untracked => cases h

namespace GeneratedMember

open Layout (Mentions SomeLine indentation mentions_of_mem_line someLine_of_mem_line
  someLine_of_mem_block someLine_of_mem_indented)

/-- Every argument begins a line of the call. -/
theorem someLine_callLayout (entityType terminator : String) {argument : String}
    {arguments : List String} (h : argument ∈ arguments) :
    SomeLine (fun written => ∃ depth after, written = indentation depth ++ (argument ++ after))
      (callLayout entityType arguments terminator) := by
  rw [← List.mem_reverse] at h
  unfold callLayout
  split
  next none => simp [none] at h
  next last others ends =>
    refine someLine_of_mem_indented (List.mem_cons_of_mem _ (List.mem_singleton.mpr rfl)) ?_
    rw [ends] at h
    obtain rfl | h := List.mem_cons.mp h
    · exact someLine_of_mem_line (List.mem_append_right _ (List.mem_singleton.mpr rfl))
        fun depth => ⟨depth, ")" ++ terminator, by rw [String.append_assoc]⟩
    · exact someLine_of_mem_line
        (List.mem_append_left _ (List.mem_map_of_mem (List.mem_reverse.mpr h)))
        fun depth => ⟨depth, ",", rfl⟩

theorem mentions_unreachableLayout {tracked : TrackedMember}
    (uses : tracked.mockable = true → Text.UsesArgument config.mocking.objectFormat) :
    Mentions (unreachableLayout config tracked) tracked.fieldName := by
  unfold unreachableLayout
  split
  next mock =>
    exact mentions_of_mem_line (List.mem_singleton.mpr rfl) (.append_right _
      (.append_left _ (Text.infix_expand_of_usesArgument (uses mock) tracked.fieldName)))
  next =>
    exact mentions_of_mem_line List.mem_cons_self
      (.append_right _ (.append_left _ (.refl tracked.fieldName)))

section Body

variable {P : String → Prop} {entityType : String} {method : BuildMethod}

theorem someLine_buildBody_of_call
    (h : ∀ terminator, SomeLine P
      (callLayout entityType (method.arguments.map (BuildValue.text config)) terminator)) :
    SomeLine P (buildBody entityType config method) := by
  simp only [buildBody]
  split
  · exact (h ";").mono fun _ hpiece => by simp [hpiece]
  · exact (h "").mono fun _ hpiece => by simp [hpiece]

theorem someLine_buildBody_of_initializer {initializer : Initializer}
    (h : initializer ∈ method.initializers)
    (h' : ∀ depth, P (indentation depth ++
      (initializer.property ++ " = " ++ initializer.value.text config ++ ","))) :
    SomeLine P (buildBody entityType config method) := by
  have assigned : SomeLine P (method.initializers.map fun initializer =>
      .line (initializer.property ++ " = " ++ initializer.value.text config ++ ",")) :=
    someLine_of_mem_line (List.mem_map_of_mem h) h'
  simp only [buildBody]
  rw [if_neg (by simpa using List.ne_nil_of_mem h)]
  exact someLine_of_mem_block ";" (by simp) assigned

/-- The body of the method that builds shows every value that it passes on. -/
theorem mentions_buildBody_of_mem_values {value : BuildValue} (h : value ∈ method.values) :
    Mentions (buildBody entityType config method) (value.text config) := by
  obtain h | h := List.mem_append.mp h
  · refine someLine_buildBody_of_call fun terminator =>
      (someLine_callLayout entityType terminator (List.mem_map_of_mem h)).imp ?_
    rintro _ ⟨depth, after, rfl⟩
    exact .append_left _ (.append_right _ (.refl _))
  · obtain ⟨initializer, hinitializer, rfl⟩ := List.mem_map.mp h
    exact someLine_buildBody_of_initializer hinitializer fun depth =>
      .append_left _ (.append_right _ (.append_left _ (.refl _)))

end Body

theorem mentions_buildBody_of_mem_unreachable {entityType : String} {method : BuildMethod}
    {tracked : TrackedMember} (h : tracked ∈ method.unreachable)
    (uses : tracked.mockable = true → Text.UsesArgument config.mocking.objectFormat) :
    Mentions (buildBody entityType config method) tracked.fieldName :=
  (mentions_unreachableLayout uses).mono fun _ hpiece =>
    List.mem_append_left _ (List.mem_append_right _ (List.mem_flatMap_of_mem h hpiece))

end GeneratedMember

/-! ## The method that builds -/

/-- What the method that builds does with an entity and a plan. -/
structure BuildMethod.Covers (c : GeneratedClass) (entity : Entity) (plan : MemberPlan)
    (method : BuildMethod) : Prop where
  /-- Every constructor parameter is passed on, in order. -/
  arguments : List.Forall₂ plan.Supplies entity.parameters method.arguments
  /-- Every settable property that is not left out is assigned, in order. -/
  initializers : List.Forall₂
    (fun property initializer => initializer.property = property.name ∧
      plan.Supplies property initializer.value)
    (entity.settableForGeneration.filter fun property => !plan.skips property.pascalName)
    method.initializers
  nodup_initializers : (method.initializers.map (·.property)).Nodup
  /-- Every tracked read-only property is assigned by reflection. -/
  unreachable : ∀ tracked, tracked ∈ method.unreachable ↔
    tracked ∈ plan.tracked ∧ tracked.member ∈ entity.readOnlyForGeneration
  nodup_unreachable : (method.unreachable.map (·.member.name)).Nodup
  /-- No property is assigned both ways. -/
  disjoint : ∀ initializer ∈ method.initializers, ∀ tracked ∈ method.unreachable,
    initializer.property ≠ tracked.member.name
  /-- No property is assigned that a constructor parameter stands for. -/
  initializer_ne_parameter : ∀ initializer ∈ method.initializers,
    ∀ parameter ∈ entity.parameters, pascalCase initializer.property ≠ parameter.pascalName
  unreachable_ne_parameter : ∀ tracked ∈ method.unreachable,
    ∀ parameter ∈ entity.parameters, tracked.member.pascalName ≠ parameter.pascalName
  /-- The field of every tracked member is read. -/
  reads : ∀ tracked ∈ plan.tracked,
    (∃ value ∈ method.values, value.field? = some tracked.fieldName) ∨ tracked ∈ method.unreachable
  /-- The text of the method shows the field, unless the format of mocked objects leaves it out. -/
  mentions : ∀ tracked ∈ plan.tracked,
    (tracked.mockable = true → Text.UsesArgument c.config.mocking.objectFormat) →
      Layout.Mentions (GeneratedMember.layout c (.build method)) tracked.fieldName

theorem nodup_names_unreachable :
    ((planMembers model entity config builder).unreachable.map (·.member.name)).Nodup := by
  refine List.pairwise_map.mpr ((pairwise_tracked.filter _).imp fun {a b} apart name => apart ?_)
  exact congrArg pascalCase name

/-- The method that the plan gives covers an entity read off a declaration. -/
theorem covers_buildMethod (wellFormed : entity.WellFormed) {parameters : List Member}
    (found : entity.constructorParameters = some parameters) :
    ((planMembers model entity config builder).buildMethod entity parameters).Covers
      (GeneratedClass.of model entity config builder) entity
      (planMembers model entity config builder) := by
  have same : entity.parameters = parameters := by simp [Entity.parameters, found]
  have initialized : ∀ initializer ∈
      ((planMembers model entity config builder).buildMethod entity parameters).initializers,
      ∃ property ∈ entity.settableForGeneration, initializer.property = property.name := by
    intro initializer hinitializer
    obtain ⟨property, hproperty, rfl⟩ := List.mem_map.mp hinitializer
    exact ⟨property, List.mem_of_mem_filter hproperty, rfl⟩
  have passed : ∀ tracked ∈ (planMembers model entity config builder).tracked,
      tracked.member ∈ (planMembers model entity config builder).passedOn entity →
        (planMembers model entity config builder).buildValue tracked.member ∈
          ((planMembers model entity config builder).buildMethod entity parameters).values := by
    intro tracked _ hpassed
    rw [MemberPlan.values_buildMethod _ found]
    exact List.mem_map_of_mem hpassed
  constructor
  case arguments =>
    rw [same]
    refine List.forall₂_map_right_iff.mpr (List.forall₂_same.mpr fun parameter hparameter => ?_)
    exact MemberPlan.supplies_buildValue (List.mem_append_left _ (same ▸ hparameter))
  case initializers =>
    refine List.forall₂_map_right_iff.mpr (List.forall₂_same.mpr fun property hproperty => ?_)
    exact ⟨rfl, MemberPlan.supplies_buildValue
      (List.mem_append_right _ (List.mem_of_mem_filter hproperty))⟩
  case nodup_initializers =>
    simp only [MemberPlan.buildMethod, List.map_map, Function.comp_def]
    exact wellFormed.nodup_settable.sublist
      ((List.filter_sublist.trans List.filter_sublist).map _)
  case unreachable => exact fun tracked => MemberPlan.mem_unreachable_iff wellFormed
  case nodup_unreachable => exact nodup_names_unreachable
  case disjoint =>
    intro initializer hinitializer tracked hmem name
    obtain ⟨property, hproperty, same⟩ := initialized initializer hinitializer
    exact MemberPlan.pascalName_ne_of_mem_unreachable wellFormed (List.mem_append_right _ hproperty)
      hmem (congrArg pascalCase (name.symm.trans same))
  case initializer_ne_parameter =>
    intro initializer hinitializer parameter hparameter
    obtain ⟨property, hproperty, same⟩ := initialized initializer hinitializer
    rw [same]
    exact Ne.symm ((Entity.mem_settableForGeneration_iff.mp hproperty).2 parameter hparameter)
  case unreachable_ne_parameter =>
    intro tracked hmem parameter hparameter
    exact MemberPlan.pascalName_ne_of_mem_unreachable wellFormed (List.mem_append_left _ hparameter)
      hmem
  case reads =>
    intro tracked hmem
    refine (MemberPlan.mem_passedOn_or_mem_unreachable wellFormed hmem).imp_left fun hpassed => ?_
    exact ⟨_, passed tracked hmem hpassed, BuildValue.field?_of_mem hmem rfl⟩
  case mentions =>
    intro tracked hmem uses
    refine Layout.mentions_of_mem_block "" (List.mem_cons_of_mem _ (List.mem_singleton.mpr rfl)) ?_
    obtain hpassed | hunreachable := MemberPlan.mem_passedOn_or_mem_unreachable wellFormed hmem
    · have value := MemberPlan.buildValue_of_mem hmem rfl
      refine (GeneratedMember.mentions_buildBody_of_mem_values
        (passed tracked hmem hpassed)).of_within
        (BuildValue.within_text (BuildValue.field?_of_mem hmem rfl) fun mock mocked => uses ?_)
      by_contra boxed
      simp [value, boxed] at mocked
    · exact GeneratedMember.mentions_buildBody_of_mem_unreachable hunreachable uses

/-- Where the author wrote no method that builds, one is generated. -/
theorem filterMap_build?_members_of {parameters : List Member}
    (found : entity.constructorParameters = some parameters) (absent : builder.hasBuild = false) :
    (GeneratedClass.of model entity config builder).members.filterMap GeneratedMember.build? =
      [(planMembers model entity config builder).buildMethod entity parameters] := by
  generalize plan_eq : planMembers model entity config builder = plan
  have constructors : (if GeneratedClass.generatesConstructor builder then
      [GeneratedClass.constructorOf config plan] else []).filterMap GeneratedMember.build? = [] := by
    split <;> rfl
  have setters : (plan.tracked.flatMap (GeneratedClass.settersOf config builder)).filterMap
      GeneratedMember.build? = [] := by
    refine List.filterMap_eq_nil_iff.mpr (List.forall_mem_flatMap.mpr fun tracked _ member h => ?_)
    obtain ⟨-, rfl⟩ | added := GeneratedClass.mem_settersOf_iff.mp h
    · rfl
    · obtain ⟨collection, -, -, -, rfl⟩ := TrackedMember.addTo?_eq_some_iff.mp added
      rfl
  have creators : (GeneratedClass.creatorsOf entity config builder).filterMap
      GeneratedMember.build? = [] :=
    GeneratedClass.filterMap_creatorsOf_eq_nil (fun _ => rfl) rfl rfl
  have hooks : (GeneratedClass.hooksOf entity builder plan).filterMap
      GeneratedMember.build? = [] := GeneratedClass.filterMap_hooksOf_eq_nil rfl rfl rfl
  have builders : (GeneratedClass.buildersOf entity config builder plan).filterMap
      GeneratedMember.build? = [plan.buildMethod entity parameters] := by
    have many (p : Prop) [Decidable p] (member : GeneratedMember) (other : member.build? = none) :
        (if p then [member] else []).filterMap GeneratedMember.build? = [] := by
      split <;> simp [other]
    simp only [GeneratedClass.buildersOf, absent, found, List.filterMap_append, Option.map_some,
      Option.toList_some, many _ .buildMany rfl, many _ (.buildDefault parameters) rfl]
    rfl
  rw [GeneratedClass.of, GeneratedClass.ofPlan, plan_eq]
  simp only [GeneratedClass.membersOf, List.filterMap_append, constructors, setters, builders,
    creators, hooks, List.nil_append, List.append_nil]

/-- Exactly one method that builds is written, and it covers the entity. -/
theorem covers_of_resolve {reference : TypeRef}
    (resolved : Entity.resolve model reference = .ok entity)
    (constructs : entity.constructorParameters.isSome = true) (absent : builder.hasBuild = false) :
    ∃ method,
      (GeneratedClass.of model entity config builder).members.filterMap GeneratedMember.build? =
        [method] ∧
      (GeneratedClass.of model entity config builder).IsWrittenIn
        (synthesize model entity config builder).text ∧
      Text.HasLines (synthesize model entity config builder).text
        ((GeneratedClass.of model entity config builder).memberLines (.build method)) ∧
      method.Covers (GeneratedClass.of model entity config builder) entity
        (planMembers model entity config builder) := by
  obtain ⟨parameters, found⟩ := Option.isSome_iff_exists.mp constructs
  have written : (GeneratedClass.of model entity config builder).IsWrittenIn
      (synthesize model entity config builder).text := GeneratedClass.isWrittenIn_sourceText _
  exact ⟨_, filterMap_build?_members_of found absent, written,
    written.hasLines_member (GeneratedClass.mem_members_of_iff.mpr (.build absent found)),
    covers_buildMethod (Entity.wellFormed_of_resolve resolved) found⟩

/-- A class with a parameter, two properties that can be assigned and one that cannot. -/
def shippedOrder : Compilation where
  types :=
    [{ name := "Order", qualifier := "Shop"
       constructors := [{ accessibility := .publicAccess,
                          parameters := [⟨"repo", .named "Shop" "IRepo" .interfaceType⟩] }]
       properties :=
         [{ name := "Name", type := .keyword "string", getter := some .publicAccess,
            setter := some .publicAccess },
          { name := "Note", type := .keyword "string", getter := some .publicAccess,
            setter := some .publicAccess },
          { name := "Id", type := .keyword "int", getter := some .publicAccess }] }]

/-- The parameter is mocked, one property is left out for a hand-written field, and one is assigned by
reflection. -/
theorem covers_of_resolve_shipped :
    let config : Configuration :=
      { Configuration.default with
        builder := { Configuration.default.builder with unreachableSetters := true }
        mocking := { Configuration.default.mocking with strategy := .all } }
    let builder : NamedType :=
      { name := "OrderBuilder", fields := [{ name := "_note", type := .keyword "int" }] }
    ∃ entity, Entity.resolve shippedOrder (.named "Shop" "Order" .classType) = .ok entity ∧
      ∃ method,
        (GeneratedClass.of shippedOrder entity config builder).members.filterMap
          GeneratedMember.build? = [method] ∧
        Text.HasLines (synthesize shippedOrder entity config builder).text
          ((GeneratedClass.of shippedOrder entity config builder).memberLines (.build method)) ∧
        method.Covers (GeneratedClass.of shippedOrder entity config builder) entity
          (planMembers shippedOrder entity config builder) ∧
        method.arguments = [.mocked "_repo"] ∧
        method.initializers = [⟨"Name", .boxed "_name" (.keyword "string")⟩] ∧
        method.unreachable.map (·.member.name) = ["Id"] := by
  intro config builder
  refine ⟨_, rfl, ?_⟩
  have resolved : Entity.resolve shippedOrder (.named "Shop" "Order" .classType) = .ok _ := rfl
  obtain ⟨method, single, -, stands, covers⟩ :=
    @covers_of_resolve shippedOrder _ config builder _ resolved rfl rfl
  have same : method = _ := (List.cons.inj single).1.symm
  exact ⟨method, single, stands, covers, by rw [same]; decide +kernel, by rw [same]; decide +kernel,
    by rw [same]; decide +kernel⟩

/-- A format of mocked objects without a placeholder leaves the field of a mock unread. -/
theorem not_mentions_repo : ∃ entity config method tracked,
    Entity.resolve (.ofParameters [⟨"repo", .named "Shop" "IRepo" .interfaceType⟩])
      (.named "Shop" "Order" .classType) = .ok entity ∧
    Configuration.ofLayers [⟨.invocation,
      { mocking := { strategy := some .all, objectFormat := some "null!" } }⟩] false = .ok config ∧
    .build method ∈ (GeneratedClass.of
      (.ofParameters [⟨"repo", .named "Shop" "IRepo" .interfaceType⟩]) entity config
      { name := "OrderBuilder" }).members ∧
    tracked ∈ (planMembers (.ofParameters [⟨"repo", .named "Shop" "IRepo" .interfaceType⟩]) entity
      config { name := "OrderBuilder" }).tracked ∧
    ¬ Layout.Mentions (GeneratedMember.layout (GeneratedClass.of
      (.ofParameters [⟨"repo", .named "Shop" "IRepo" .interfaceType⟩]) entity config
      { name := "OrderBuilder" }) (.build method)) tracked.fieldName := by
  refine ⟨_, _, _, _, rfl, rfl, GeneratedClass.mem_members_of_iff.mpr (.build rfl rfl),
    List.mem_cons_self, fun mentions => ?_⟩
  exact absurd (mentions 0) (by decide +kernel)

end FluentGen
