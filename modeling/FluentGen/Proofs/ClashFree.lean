import FluentGen.Proofs.HandWritten
import FluentGen.Proofs.Signatures
/-!
# Clashes in generated classes

The names of members, the prefix of the setters and the name of the factory are free, and no step
compares what comes of them. A generated class may therefore declare one field or method twice;
`ClashFree` says exactly when it does not.

## Main definitions
* `GeneratedClass.DeclaresApart`: no two generated declarations clash.
* `ClashFree`: the same in terms of what the class is made from.

## Main statements
* `declaresApart_iff`: a generated class is free of clashes exactly when `ClashFree` holds.
-/
namespace FluentGen

open GeneratedClass (canBuild generatesBuild generatesConstructor)

/-- No two generated declarations clash: fields have different names, methods different names or
parameter types, and the static property shares its name with no method. -/
structure GeneratedClass.DeclaresApart (types : Setoid ParameterType) (entity : Entity)
    (c : GeneratedClass) : Prop where
  fields : (c.fields.map GeneratedField.name).Nodup
  methods : (signaturesOf entity c.config c.members).Pairwise fun a b => ¬ a.Clashes types b
  creator : .creator ∈ c.members → ∀ signature ∈ signaturesOf entity c.config c.members,
    signature.name ≠ names.creator

/-- The setter of `a` is unlike the method that appends to `b`, if both are generated. -/
def SetterApart (types : Setoid ParameterType) (config : Configuration) (builder : NamedType)
    (a b : TrackedMember) : Prop :=
  a.hasSetter config builder = false →
    ∀ collection, b.addTo? builder = some (.addTo b collection) →
      ¬ (a.setterSignature config).Clashes types (b.addToSignature collection)

/-- No generated setter clashes with the given signature. -/
def MemberPlan.SettersAvoid (types : Setoid ParameterType) (config : Configuration)
    (builder : NamedType) (plan : MemberPlan) (signature : Signature) : Prop :=
  ∀ tracked ∈ plan.tracked, tracked.hasSetter config builder = false →
    ¬ (tracked.setterSignature config).Clashes types signature

/-- What keeps the declarations of a generated class apart. The names of members, the prefix of the
setters and the name of the factory are free; all other names are fixed. -/
structure ClashFree (types : Setoid ParameterType) (entity : Entity) (config : Configuration)
    (builder : NamedType) (plan : MemberPlan) : Prop where
  /-- Members with generated fields have different ones. -/
  backing : ∀ a ∈ plan.tracked, ∀ b ∈ plan.tracked, a.declaresField = true →
    b.declaresField = true → a.fieldName = b.fieldName → a = b
  /-- No member has the field of the fixture, where that is generated. -/
  fixture : config.fixture.strategy ≠ .none → builder.field? names.fixtureField = none →
    ∀ tracked ∈ plan.tracked, tracked.fieldName ≠ names.fixtureField
  /-- No setter is like a method that appends. -/
  setter_addTo : ∀ a ∈ plan.tracked, ∀ b ∈ plan.tracked, SetterApart types config builder a b
  /-- No setter takes a number under the name of the method that builds many. -/
  setter_buildMany : builder.hasBuildMany = false → canBuild entity builder = true →
    plan.SettersAvoid types config builder ⟨names.buildMany, [.declared (.keyword "int")]⟩
  /-- No setter is like a method that builds in one step from one parameter. -/
  setter_buildDefault : config.builder.defaultCreator = true → builder.hasBuildDefault = false →
    ∀ parameter, entity.constructorParameters = some [parameter] →
      plan.SettersAvoid types config builder ⟨names.buildDefault, [.declared parameter.type]⟩
  /-- No setter takes an entity under the name of the hook on built entities. -/
  setter_postBuild : generatesBuild entity builder = true → builder.hasPostBuild = false →
    plan.SettersAvoid types config builder ⟨names.postBuild, [.entity entity.type]⟩
  /-- The factory is not called like the method that builds, if there is a constructor to call. -/
  factory_build : config.builder.factoryMethod = some names.build →
    builder.declares names.build = false → entity.constructorParameters = none
  /-- The factory is not called like the hook that runs after construction. -/
  factory_preBuild : config.builder.factoryMethod = some names.preBuild →
    builder.declares names.preBuild = false → generatesConstructor builder = false
  /-- The factory is not called like a method that builds in one step from nothing. -/
  factory_buildDefault : config.builder.factoryMethod = some names.buildDefault →
    builder.declares names.buildDefault = false → config.builder.defaultCreator = true →
      entity.constructorParameters ≠ some []
  /-- Neither the factory nor a setter is called like the static property. -/
  creator : config.builder.creatorProperty = true → builder.declares names.creator = false →
    config.builder.factoryMethod ≠ some names.creator ∧
      ∀ tracked ∈ plan.tracked, tracked.setterName config ≠ names.creator

variable {types : Setoid ParameterType} {model : Compilation} {entity : Entity}
  {config : Configuration} {builder : NamedType} {plan : MemberPlan}

/-! ## Fields -/

theorem nodup_fieldsOf_iff :
    ((GeneratedClass.of model entity config builder).fields.map GeneratedField.name).Nodup ↔
      (∀ a ∈ (planMembers model entity config builder).tracked,
        ∀ b ∈ (planMembers model entity config builder).tracked, a.declaresField = true →
          b.declaresField = true → a.fieldName = b.fieldName → a = b) ∧
      (config.fixture.strategy ≠ .none → builder.field? names.fixtureField = none →
        ∀ tracked ∈ (planMembers model entity config builder).tracked,
          tracked.fieldName ≠ names.fixtureField) := by
  have declared : ∀ tracked ∈ (planMembers model entity config builder).tracked,
      builder.field? names.fixtureField = none → tracked.fieldName = names.fixtureField →
        tracked.declaresField = true := by
    intro tracked hmem absent name
    simp [(mem_tracked_iff.mp hmem).2.declaresField, name, absent]
  have backing : (((planMembers model entity config builder).tracked.filter
      (·.declaresField)).map (·.fieldName)).Nodup ↔ _ :=
    List.nodup_map_iff_inj_on (nodup_tracked.filter _)
  have fields : (GeneratedClass.of model entity config builder).fields.map GeneratedField.name =
      (if config.fixture.strategy ≠ .none ∧ (builder.field? names.fixtureField).isNone then
        [names.fixtureField] else []) ++
      ((planMembers model entity config builder).tracked.filter (·.declaresField)).map
        (·.fieldName) := by
    simp only [GeneratedClass.of, GeneratedClass.ofPlan, GeneratedClass.fieldsOf, List.map_append,
      List.map_map]
    congr 1
    split <;> rfl
  rw [fields]
  by_cases generated : config.fixture.strategy ≠ .none ∧ (builder.field? names.fixtureField).isNone
  · rw [if_pos generated, List.singleton_append, List.nodup_cons, backing]
    simp only [Option.isNone_iff_eq_none] at generated
    simp only [List.mem_map, List.mem_filter, not_exists, not_and, generated.2]
    grind
  · rw [if_neg generated, List.nil_append, backing]
    simp only [Option.isNone_iff_eq_none, not_and] at generated
    simp only [List.mem_filter]
    grind

theorem pairwise_settersOf_iff {tracked : TrackedMember} :
    (signaturesOf entity config (GeneratedClass.settersOf config builder tracked)).Pairwise
        (fun a b => ¬ a.Clashes types b) ↔ SetterApart types config builder tracked tracked := by
  cases added : tracked.addTo? builder with
  | none =>
    cases absent : tracked.hasSetter config builder <;>
      simp [SetterApart, signaturesOf, GeneratedClass.settersOf, TrackedMember.setter?, absent,
        added, GeneratedMember.signature?]
  | some member =>
    obtain ⟨collection, -, -, -, rfl⟩ := TrackedMember.addTo?_eq_some_iff.mp added
    cases absent : tracked.hasSetter config builder <;>
      simp [SetterApart, signaturesOf, GeneratedClass.settersOf, TrackedMember.setter?, absent,
        added, GeneratedMember.signature?]

/-- Methods for different members clash only as a setter with a method that appends. -/
theorem settersOf_apart_iff {a b : TrackedMember} (h : a.member.pascalName ≠ b.member.pascalName) :
    (∀ x ∈ signaturesOf entity config (GeneratedClass.settersOf config builder a),
      ∀ y ∈ signaturesOf entity config (GeneratedClass.settersOf config builder b),
        ¬ x.Clashes types y) ↔
      SetterApart types config builder a b ∧ SetterApart types config builder b a := by
  simp only [mem_signaturesOf_settersOf_iff]
  constructor
  · intro apart
    refine ⟨fun absent collection added => ?_, fun absent collection added clash => ?_⟩
    · exact apart _ (.inl ⟨absent, rfl⟩) _ (.inr ⟨collection, added, rfl⟩)
    · exact apart _ (.inr ⟨collection, added, rfl⟩) _ (.inl ⟨absent, rfl⟩) clash.symm
  · rintro ⟨hab, hba⟩ x (⟨absent, rfl⟩ | ⟨collection, added, rfl⟩) y
      (⟨absent', rfl⟩ | ⟨other, added', rfl⟩)
    · exact not_clashes_setterSignature h
    · exact hab absent other added'
    · exact fun clash => hba absent' collection added clash.symm
    · exact not_clashes_addToSignature h

theorem pairwise_flatMap_settersOf_iff :
    (signaturesOf entity config ((planMembers model entity config builder).tracked.flatMap
        (GeneratedClass.settersOf config builder))).Pairwise (fun a b => ¬ a.Clashes types b) ↔
      ∀ a ∈ (planMembers model entity config builder).tracked,
        ∀ b ∈ (planMembers model entity config builder).tracked,
          SetterApart types config builder a b := by
  rw [signaturesOf, List.filterMap_flatMap, List.pairwise_flatMap]
  constructor
  · rintro ⟨inner, outer⟩
    have both := (outer.and pairwise_tracked).imp fun {a b} h => (settersOf_apart_iff h.2).mp h.1
    exact List.Pairwise.forall_of_forall_of_flip
      (fun a ha => pairwise_settersOf_iff.mp (inner a ha)) (both.imp And.left) (both.imp And.right)
  · intro apart
    refine ⟨fun a ha => pairwise_settersOf_iff.mpr (apart a ha a ha), ?_⟩
    refine List.Pairwise.imp_of_mem (fun {a b} ha hb name => ?_) pairwise_tracked
    exact (settersOf_apart_iff name).mpr ⟨apart a ha b hb, apart b hb a ha⟩

/-! ## Setters against other methods -/

theorem mem_signaturesOf_flatMap_settersOf_iff {signature : Signature} :
    signature ∈ signaturesOf entity config
        (plan.tracked.flatMap (GeneratedClass.settersOf config builder)) ↔
      ∃ tracked ∈ plan.tracked, signature ∈ signaturesOf entity config
        (GeneratedClass.settersOf config builder tracked) := by
  rw [signaturesOf, List.filterMap_flatMap, List.mem_flatMap]
  rfl

/-- Methods for members take one parameter. -/
theorem length_parameters_of_mem_flatMap_settersOf {signature : Signature}
    (h : signature ∈ signaturesOf entity config
      (plan.tracked.flatMap (GeneratedClass.settersOf config builder))) :
    signature.parameters.length = 1 := by
  obtain ⟨tracked, -, h⟩ := mem_signaturesOf_flatMap_settersOf_iff.mp h
  obtain ⟨-, rfl⟩ | ⟨collection, -, rfl⟩ := mem_signaturesOf_settersOf_iff.mp h <;> rfl

/-- No fixed name starts like those of methods that append. -/
theorem TrackedMember.addToName_ne {tracked : TrackedMember} {name : String}
    (h : name.toList.head? ≠ some 'A') : tracked.addToName ≠ name := by
  rintro rfl
  simp [addToName, names] at h

/-- Of the methods for members, only setters can clash with one under a fixed name. -/
theorem settersAvoid_iff {name : String} {parameters : List ParameterType}
    (h : name.toList.head? ≠ some 'A') :
    plan.SettersAvoid types config builder ⟨name, parameters⟩ ↔
      ∀ signature ∈ signaturesOf entity config
        (plan.tracked.flatMap (GeneratedClass.settersOf config builder)),
        ¬ signature.Clashes types ⟨name, parameters⟩ := by
  simp only [mem_signaturesOf_flatMap_settersOf_iff, mem_signaturesOf_settersOf_iff]
  constructor
  · rintro avoid signature ⟨tracked, hmem, ⟨absent, rfl⟩ | ⟨collection, -, rfl⟩⟩
    · exact avoid tracked hmem absent
    · exact fun clash => TrackedMember.addToName_ne h clash.1
  · exact fun apart tracked hmem absent => apart _ ⟨tracked, hmem, .inl ⟨absent, rfl⟩⟩

/-- A method for a member can only clash with the method that builds many, the method that builds
in one step from one parameter, and the hook on built entities. -/
theorem settersOf_fixed_apart_iff :
    (∀ a ∈ signaturesOf entity config
        (plan.tracked.flatMap (GeneratedClass.settersOf config builder)),
      ∀ b ∈ signaturesOf entity config (GeneratedClass.buildersOf entity config builder plan) ++
        (signaturesOf entity config (GeneratedClass.creatorsOf entity config builder) ++
          signaturesOf entity config (GeneratedClass.hooksOf entity builder plan)),
        ¬ a.Clashes types b) ↔
      (builder.hasBuildMany = false → canBuild entity builder = true →
        plan.SettersAvoid types config builder ⟨names.buildMany, [.declared (.keyword "int")]⟩) ∧
      (config.builder.defaultCreator = true → builder.hasBuildDefault = false →
        ∀ parameter, entity.constructorParameters = some [parameter] →
          plan.SettersAvoid types config builder
            ⟨names.buildDefault, [.declared parameter.type]⟩) ∧
      (generatesBuild entity builder = true → builder.hasPostBuild = false →
        plan.SettersAvoid types config builder ⟨names.postBuild, [.entity entity.type]⟩) := by
  simp only [List.mem_append]
  constructor
  · intro apart
    refine ⟨fun absent can => ?_, fun asked absent parameter one => ?_, fun builds absent => ?_⟩
    · refine (settersAvoid_iff (by decide)).mpr fun a ha => apart a ha _ (.inl ?_)
      exact mem_signaturesOf_buildersOf_iff.mpr (.inr (.inl ⟨absent, can, rfl⟩))
    · refine (settersAvoid_iff (by decide)).mpr fun a ha => apart a ha _ (.inl ?_)
      exact mem_signaturesOf_buildersOf_iff.mpr (.inr (.inr ⟨_, asked, absent, one, rfl⟩))
    · refine (settersAvoid_iff (by decide)).mpr fun a ha => apart a ha _ (.inr (.inr ?_))
      exact mem_signaturesOf_hooksOf_iff.mpr (.inr (.inl ⟨builds, absent, rfl⟩))
  · rintro ⟨buildMany, buildDefault, postBuild⟩ a ha b hb clash
    -- a signature of another number of parameters clashes with no method for a member
    have length := clash.2.length_eq.symm.trans (length_parameters_of_mem_flatMap_settersOf ha)
    obtain hb | hb | hb := hb
    · obtain ⟨-, -, rfl⟩ | ⟨absent, can, rfl⟩ | ⟨parameters, asked, absent, some, rfl⟩ :=
        mem_signaturesOf_buildersOf_iff.mp hb
      · cases length
      · exact (settersAvoid_iff (by decide)).mp (buildMany absent can) a ha clash
      · obtain ⟨parameter, rfl⟩ := List.length_eq_one_iff.mp ((List.length_map _).symm.trans length)
        have avoid := buildDefault asked absent parameter some
        exact (settersAvoid_iff (by decide)).mp avoid a ha clash
    · obtain ⟨name, -, -, rfl⟩ := mem_signaturesOf_creatorsOf_iff.mp hb
      cases length
    · obtain ⟨-, -, rfl⟩ | ⟨builds, absent, rfl⟩ | ⟨-, -, -, written⟩ :=
        mem_signaturesOf_hooksOf_iff.mp hb
      · cases length
      · exact (settersAvoid_iff (by decide)).mp (postBuild builds absent) a ha clash
      · obtain rfl := Option.some.inj written
        cases length

/-! ## The factory and the static property -/

/-- The factory takes no parameter, so it can only clash with the method that builds, the hook that
runs after construction, and the method that builds in one step from nothing. -/
theorem creatorsOf_fixed_apart_iff :
    (∀ f ∈ signaturesOf entity config (GeneratedClass.creatorsOf entity config builder),
        (∀ a ∈ signaturesOf entity config (GeneratedClass.buildersOf entity config builder plan),
          ¬ a.Clashes types f) ∧
        ∀ b ∈ signaturesOf entity config (GeneratedClass.hooksOf entity builder plan),
          ¬ f.Clashes types b) ↔
      (config.builder.factoryMethod = some names.build → builder.declares names.build = false →
        entity.constructorParameters = none) ∧
      (config.builder.factoryMethod = some names.preBuild →
        builder.declares names.preBuild = false → generatesConstructor builder = false) ∧
      (config.builder.factoryMethod = some names.buildDefault →
        builder.declares names.buildDefault = false → config.builder.defaultCreator = true →
          entity.constructorParameters ≠ some []) := by
  constructor
  · intro apart
    refine ⟨fun called absent => ?_, fun called absent => ?_, fun called absent asked none => ?_⟩
    all_goals
      obtain ⟨builders, hooks⟩ :=
        apart _ (mem_signaturesOf_creatorsOf_iff.mpr ⟨_, called, absent, rfl⟩)
    · by_contra some
      refine builders ⟨names.build, []⟩ (mem_signaturesOf_buildersOf_iff.mpr (.inl ⟨?_, ?_, rfl⟩))
        ⟨rfl, .nil⟩
      · simp [NamedType.hasBuild, NamedType.overloads_eq_nil absent]
      · exact Option.isSome_iff_ne_none.mpr some
    · by_contra makes
      refine hooks ⟨names.preBuild, []⟩ (mem_signaturesOf_hooksOf_iff.mpr (.inl ⟨?_, ?_, rfl⟩))
        ⟨rfl, .nil⟩
      · simpa using makes
      · simp [NamedType.hasPreBuild, NamedType.overloads_eq_nil absent]
    · refine builders ⟨names.buildDefault, []⟩
        (mem_signaturesOf_buildersOf_iff.mpr (.inr (.inr ⟨[], asked, ?_, none, rfl⟩))) ⟨rfl, .nil⟩
      simp [NamedType.hasBuildDefault, NamedType.overloads_eq_nil absent]
  · rintro ⟨build, preBuild, buildDefault⟩ f hf
    obtain ⟨name, called, absent, rfl⟩ := mem_signaturesOf_creatorsOf_iff.mp hf
    refine ⟨fun a ha clash => ?_, fun b hb clash => ?_⟩
    · obtain ⟨-, some, rfl⟩ | ⟨-, -, rfl⟩ | ⟨parameters, asked, -, some, rfl⟩ :=
        mem_signaturesOf_buildersOf_iff.mp ha
      · obtain rfl : names.build = name := clash.1
        simp [build called absent] at some
      · cases clash.2
      · obtain rfl : names.buildDefault = name := clash.1
        obtain rfl := List.map_eq_nil_iff.mp (List.forall₂_nil_right_iff.mp clash.2)
        exact buildDefault called absent asked some
    · obtain ⟨makes, -, rfl⟩ | ⟨-, -, rfl⟩ | ⟨-, -, -, written⟩ :=
        mem_signaturesOf_hooksOf_iff.mp hb
      · obtain rfl : name = names.preBuild := clash.1
        simp [preBuild called absent] at makes
      · cases clash.2
      · obtain rfl := Option.some.inj written
        cases clash.2

theorem creator_mem_membersOf_iff :
    .creator ∈ GeneratedClass.membersOf entity config builder plan ↔
      config.builder.creatorProperty = true ∧ builder.declares names.creator = false := by
  rw [GeneratedClass.mem_membersOf_iff]
  constructor
  · intro generated
    cases generated with
    | creator asked absent => exact ⟨asked, absent⟩
  · exact fun ⟨asked, absent⟩ => .creator asked absent

theorem signaturesOf_membersOf :
    signaturesOf entity config (GeneratedClass.membersOf entity config builder plan) =
      signaturesOf entity config (plan.tracked.flatMap (GeneratedClass.settersOf config builder)) ++
        (signaturesOf entity config (GeneratedClass.buildersOf entity config builder plan) ++
          (signaturesOf entity config (GeneratedClass.creatorsOf entity config builder) ++
            signaturesOf entity config (GeneratedClass.hooksOf entity builder plan))) := by
  have constructor : signaturesOf entity config (if GeneratedClass.generatesConstructor builder then
      [GeneratedClass.constructorOf config plan] else []) = [] := by
    split <;> rfl
  simp only [GeneratedClass.membersOf, signaturesOf_append, constructor, List.nil_append,
    List.append_assoc]

/-- Of the names of methods, only those of setters and of the factory can be that of the static
property. -/
theorem name_ne_creator_iff (declares : builder.declares names.creator = false) :
    (∀ signature ∈ signaturesOf entity config
        (GeneratedClass.membersOf entity config builder plan), signature.name ≠ names.creator) ↔
      config.builder.factoryMethod ≠ some names.creator ∧
        ∀ tracked ∈ plan.tracked, tracked.setterName config ≠ names.creator := by
  have unwritten (tracked : TrackedMember) (name : tracked.setterName config = names.creator) :
      tracked.hasSetter config builder = false := by
    simp [TrackedMember.hasSetter, name, NamedType.hasOverload, NamedType.hasDelegateOverload,
      NamedType.overloads_eq_nil declares]
  simp only [signaturesOf_membersOf, List.mem_append, mem_signaturesOf_flatMap_settersOf_iff]
  constructor
  · intro apart
    refine ⟨fun called => ?_, fun tracked hmem name => ?_⟩
    · exact apart ⟨names.creator, []⟩ (.inr (.inr (.inl
        (mem_signaturesOf_creatorsOf_iff.mpr ⟨_, called, declares, rfl⟩)))) rfl
    · exact apart (tracked.setterSignature config) (.inl ⟨tracked, hmem,
        mem_signaturesOf_settersOf_iff.mpr (.inl ⟨unwritten tracked name, rfl⟩)⟩) name
  · rintro ⟨factory, setter⟩ signature hsignature name
    obtain ⟨tracked, hmem, hsignature⟩ | hsignature | hsignature | hsignature := hsignature
    · obtain ⟨-, rfl⟩ | ⟨collection, -, rfl⟩ := mem_signaturesOf_settersOf_iff.mp hsignature
      · exact setter tracked hmem name
      · exact TrackedMember.addToName_ne (by decide) name
    · obtain ⟨-, -, rfl⟩ | ⟨-, -, rfl⟩ | ⟨_, -, -, -, rfl⟩ :=
        mem_signaturesOf_buildersOf_iff.mp hsignature <;> simp [names] at name
    · obtain ⟨_, called, -, rfl⟩ := mem_signaturesOf_creatorsOf_iff.mp hsignature
      exact factory (called.trans (congrArg some name))
    · obtain ⟨-, -, rfl⟩ | ⟨-, -, rfl⟩ | ⟨-, -, -, written⟩ :=
        mem_signaturesOf_hooksOf_iff.mp hsignature
      · simp [names] at name
      · simp [names] at name
      · obtain rfl := Option.some.inj written
        simp [names] at name

/-- A generated class is free of clashes exactly when `ClashFree` holds. -/
theorem declaresApart_iff (types : Setoid ParameterType) (model : Compilation) (entity : Entity)
    (config : Configuration) (builder : NamedType) :
    (GeneratedClass.of model entity config builder).DeclaresApart types entity ↔
      ClashFree types entity config builder (planMembers model entity config builder) := by
  constructor
  · rintro ⟨fields, methods, creator⟩
    obtain ⟨backing, fixture⟩ := nodup_fieldsOf_iff.mp fields
    simp only [GeneratedClass.of, GeneratedClass.ofPlan] at methods
    rw [signaturesOf_membersOf, List.pairwise_append, pairwise_flatMap_settersOf_iff,
      pairwise_fixed_iff, creatorsOf_fixed_apart_iff, settersOf_fixed_apart_iff] at methods
    obtain ⟨setters, ⟨build, preBuild, buildDefault⟩, setter_buildMany, setter_buildDefault,
      setter_postBuild⟩ := methods
    refine ⟨backing, fixture, setters, setter_buildMany, setter_buildDefault, setter_postBuild,
      build, preBuild, buildDefault, fun asked absent => ?_⟩
    exact (name_ne_creator_iff absent).mp (creator (creator_mem_membersOf_iff.mpr ⟨asked, absent⟩))
  · intro free
    refine ⟨nodup_fieldsOf_iff.mpr ⟨free.backing, free.fixture⟩, ?_, fun h => ?_⟩
    · simp only [GeneratedClass.of, GeneratedClass.ofPlan]
      rw [signaturesOf_membersOf, List.pairwise_append, pairwise_flatMap_settersOf_iff,
        pairwise_fixed_iff, creatorsOf_fixed_apart_iff, settersOf_fixed_apart_iff]
      exact ⟨free.setter_addTo, ⟨free.factory_build, free.factory_preBuild,
        free.factory_buildDefault⟩, free.setter_buildMany, free.setter_buildDefault,
        free.setter_postBuild⟩
    · obtain ⟨asked, absent⟩ := creator_mem_membersOf_iff.mp h
      exact (name_ne_creator_iff absent).mpr (free.creator asked absent)

/-- A constructor parameter called `fixture` gets the field of the fixture. -/
theorem not_declaresApart_fixture : ∃ entity config,
    Entity.resolve (.ofParameters [⟨"fixture", .keyword "string"⟩])
      (.named "Shop" "Order" .classType) = .ok entity ∧
    Configuration.ofLayers [⟨.invocation, { fixture := { strategy := some .all } }⟩] false =
      .ok config ∧
    ∀ types, ¬ (GeneratedClass.of (.ofParameters [⟨"fixture", .keyword "string"⟩]) entity config
      { name := "OrderBuilder" }).DeclaresApart types entity := by
  refine ⟨_, _, rfl, rfl, fun types apart => ?_⟩
  exact absurd apart.fields (by decide)

end FluentGen
