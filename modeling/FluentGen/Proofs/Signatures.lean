import FluentGen.Proofs.Members
import Mathlib.Data.List.Forall2
/-!
# Signatures of generated declarations

A class may not have two methods of one name whose parameters have the same types. When two types
are the same is for the compiler to say, so everything here holds for every equivalence of parameter
types.

## Main definitions
* `ParameterType`, `Signature`: what tells methods of one name apart.
* `Signature.Clashes`: whether two signatures cannot stand in one class.
* `signaturesOf`: the signatures of generated methods.

## Main statements
* `GeneratedMember.heads_of_signature?`: the signature of a method is what its declaration starts
  with.
* `pairwise_fixed`: methods under fixed names never clash with each other.
-/
namespace FluentGen

open GeneratedClass (canBuild generatesBuild generatesConstructor)

/-- The type of a parameter of a generated method. -/
inductive ParameterType where
  | declared (type : TypeRef)
  /-- The entity, which is written without its namespace. -/
  | entity (type : TypeRef)
  /-- A delegate that sets up a mock; of the mock only the text is known. -/
  | setup (mock : String)
  deriving DecidableEq, Repr

/-- A parameter type as it is written. -/
def ParameterType.text : ParameterType → String
  | .declared type => type.display
  | .entity type => { type with qualifier := none }.display
  | .setup mock => "System.Action<" ++ mock ++ ">"

/-- The name of a method and the types of its parameters. -/
structure Signature where
  name : String
  parameters : List ParameterType
  deriving DecidableEq, Repr

/-- Whether a class may not have both signatures, given when types are the same. -/
def Signature.Clashes (types : Setoid ParameterType) (a b : Signature) : Prop :=
  a.name = b.name ∧ List.Forall₂ types.r a.parameters b.parameters

theorem Signature.Clashes.symm {types : Setoid ParameterType} {a b : Signature}
    (h : a.Clashes types b) : b.Clashes types a :=
  ⟨h.1.symm, h.2.flip.imp fun _ _ => types.symm⟩

/-- The signature of a setter: that of a mock takes a delegate, any other one a value. -/
def TrackedMember.setterSignature (tracked : TrackedMember) (config : Configuration) : Signature :=
  ⟨tracked.setterName config,
    [if tracked.mockable then .setup (tracked.fieldType config) else .declared tracked.type]⟩

/-- The signature of a method that appends items. -/
def TrackedMember.addToSignature (tracked : TrackedMember) (collection : Collection) : Signature :=
  ⟨tracked.addToName, [.declared (.arrayOf collection.itemType)]⟩

/-- The signature of a generated method; other members have none. -/
def GeneratedMember.signature? (entity : Entity) (config : Configuration) :
    GeneratedMember → Option Signature
  | .setter tracked => some (tracked.setterSignature config)
  | .addTo tracked collection => some (tracked.addToSignature collection)
  | .build _ => some ⟨names.build, []⟩
  | .buildMany => some ⟨names.buildMany, [.declared (.keyword "int")]⟩
  | .buildDefault parameters =>
    some ⟨names.buildDefault, parameters.map fun parameter => .declared parameter.type⟩
  | .factory name => some ⟨name, []⟩
  | .preBuild => some ⟨names.preBuild, []⟩
  | .postBuild => some ⟨names.postBuild, [.entity entity.type]⟩
  | .setUnreachable =>
    some ⟨names.setUnreachable,
      [.declared (.keyword "object"), .declared (.keyword "string"), .declared (.keyword "object")]⟩
  | .constructor .. | .creator | .implicitCast => none

/-- The name of a generated field. -/
def GeneratedField.name : GeneratedField → String
  | .fixture => names.fixtureField
  | .backing tracked => tracked.fieldName

/-- The signatures of the methods among some members, in order. -/
def signaturesOf (entity : Entity) (config : Configuration) (members : List GeneratedMember) :
    List Signature :=
  members.filterMap (GeneratedMember.signature? entity config)

variable {types : Setoid ParameterType} {entity : Entity} {config : Configuration}
  {builder : NamedType}

/-- Whether the text of a parameter gives it the type, maybe after a modifier. -/
def ParameterType.Declares (type : ParameterType) (declaration : String) : Prop :=
  ∃ modifier rest, declaration = modifier ++ type.text ++ " " ++ rest

theorem ParameterType.declares (type : ParameterType) (rest : String) :
    type.Declares (type.text ++ " " ++ rest) :=
  ⟨"", rest, by rw [String.empty_append]⟩

/-- Whether a declaration starts with a line that has the name of a method and the types of its
parameters in order. -/
def Signature.Heads (signature : Signature) (layout : List Layout) : Prop :=
  ∃ before declarations text body, layout = .line text :: body ∧
    text = before ++ " " ++ signature.name ++ "(" ++ ", ".intercalate declarations ++ ")" ∧
    List.Forall₂ ParameterType.Declares signature.parameters declarations

theorem GeneratedMember.heads_setter (c : GeneratedClass) (tracked : TrackedMember) :
    (tracked.setterSignature c.config).Heads (layout c (.setter tracked)) := by
  simp only [layout, setterLayout, TrackedMember.setterSignature]
  split
  · refine ⟨"public " ++ c.builderType,
      ["System.Action<" ++ tracked.fieldType c.config ++ "> setup"],
      _, _, rfl, by simp [← String.toList_inj], .cons ⟨"", "setup", ?_⟩ .nil⟩
    simp [← String.toList_inj, ParameterType.text]
  · refine ⟨"public " ++ c.builderType, [tracked.type.display ++ " value"],
      _, _, rfl, by simp [← String.toList_inj], .cons ⟨"", "value", ?_⟩ .nil⟩
    simp [← String.toList_inj, ParameterType.text]

/-- The signature of a method is what its declaration starts with. -/
theorem GeneratedMember.heads_of_signature? {model : Compilation} {member : GeneratedMember}
    {signature : Signature} (h : member.signature? entity config = some signature) :
    signature.Heads (member.layout (.of model entity config builder)) := by
  cases member with
  | constructor | creator | implicitCast => cases h
  | setter tracked =>
    obtain rfl := Option.some.inj h
    exact heads_setter (.of model entity config builder) tracked
  | addTo tracked collection =>
    obtain rfl := Option.some.inj h
    refine ⟨"public " ++ builderTypeText entity builder,
      ["params " ++ (TypeRef.arrayOf collection.itemType).display ++ " items"], _, _, rfl, ?_,
      .cons ⟨"params ", "items", ?_⟩ .nil⟩
    · simp [← String.toList_inj, TrackedMember.addToSignature, GeneratedClass.of,
        GeneratedClass.ofPlan]
    · simp [← String.toList_inj, ParameterType.text]
  | build =>
    obtain rfl := Option.some.inj h
    refine ⟨"public " ++ entityTypeText entity, [], _, _, rfl, ?_, .nil⟩
    simp [← String.toList_inj, GeneratedClass.of, GeneratedClass.ofPlan]
  | buildMany =>
    obtain rfl := Option.some.inj h
    refine ⟨"public System.Collections.Generic.IEnumerable<" ++ entityTypeText entity ++ ">",
      ["int count = 3"], _, _, rfl, ?_, .cons (ParameterType.declares _ "count = 3") .nil⟩
    simp [← String.toList_inj, GeneratedClass.of, GeneratedClass.ofPlan]
  | buildDefault parameters =>
    obtain rfl := Option.some.inj h
    refine ⟨"public static " ++ entityTypeText entity, parameters.map fun parameter =>
      parameter.type.display ++ " " ++ escapeIdentifier parameter.name ++ " = default(" ++
        parameter.type.display ++ ")", _, _, rfl, ?_, ?_⟩
    · simp [GeneratedClass.of, GeneratedClass.ofPlan]
    · rw [List.forall₂_map_left_iff, List.forall₂_map_right_iff, List.forall₂_same]
      intro parameter _
      refine ⟨"", escapeIdentifier parameter.name ++ " = default(" ++ parameter.type.display ++ ")",
        ?_⟩
      simp [← String.toList_inj, ParameterType.text]
  | factory name =>
    obtain rfl := Option.some.inj h
    refine ⟨"public static " ++ builderTypeText entity builder, [], _, _, rfl, ?_, .nil⟩
    simp [← String.toList_inj, GeneratedClass.of, GeneratedClass.ofPlan]
  | preBuild =>
    obtain rfl := Option.some.inj h
    exact ⟨"public void", [], _, _, rfl, rfl, .nil⟩
  | postBuild =>
    obtain rfl := Option.some.inj h
    refine ⟨"public void", [entityTypeText entity ++ " entity"], _, _, rfl, ?_,
      .cons ⟨"", "entity", ?_⟩ .nil⟩
    · simp [← String.toList_inj, GeneratedClass.of, GeneratedClass.ofPlan]
    · simp [← String.toList_inj, ParameterType.text, entityTypeText]
  | setUnreachable =>
    obtain rfl := Option.some.inj h
    exact ⟨"private static void", ["object target", "string name", "object value"], _, _, rfl, rfl,
      .cons (ParameterType.declares _ "target") (.cons (ParameterType.declares _ "name")
        (.cons (ParameterType.declares _ "value") .nil))⟩

theorem mem_signaturesOf_iff {members : List GeneratedMember} {signature : Signature} :
    signature ∈ signaturesOf entity config members ↔
      ∃ member ∈ members, member.signature? entity config = some signature :=
  List.mem_filterMap

@[simp] theorem signaturesOf_append (members others : List GeneratedMember) :
    signaturesOf entity config (members ++ others) =
      signaturesOf entity config members ++ signaturesOf entity config others :=
  List.filterMap_append

theorem mem_signaturesOf_settersOf_iff {tracked : TrackedMember} {signature : Signature} :
    signature ∈ signaturesOf entity config (GeneratedClass.settersOf config builder tracked) ↔
      (tracked.hasSetter config builder = false ∧ signature = tracked.setterSignature config) ∨
        ∃ collection, tracked.addTo? builder = some (.addTo tracked collection) ∧
          signature = tracked.addToSignature collection := by
  rw [mem_signaturesOf_iff]
  constructor
  · rintro ⟨member, hmember, written⟩
    obtain ⟨absent, rfl⟩ | added := GeneratedClass.mem_settersOf_iff.mp hmember
    · exact .inl ⟨absent, (Option.some.inj written).symm⟩
    · obtain ⟨collection, -, -, -, rfl⟩ := TrackedMember.addTo?_eq_some_iff.mp added
      exact .inr ⟨collection, added, (Option.some.inj written).symm⟩
  · rintro (⟨absent, rfl⟩ | ⟨collection, added, rfl⟩)
    · exact ⟨_, GeneratedClass.mem_settersOf_iff.mpr (.inl ⟨absent, rfl⟩), rfl⟩
    · exact ⟨_, GeneratedClass.mem_settersOf_iff.mpr (.inr added), rfl⟩

theorem not_clashes_setterSignature {a b : TrackedMember}
    (h : a.member.pascalName ≠ b.member.pascalName) :
    ¬ (a.setterSignature config).Clashes types (b.setterSignature config) :=
  fun clash => h ((String.append_right_inj _).mp clash.1)

theorem not_clashes_addToSignature {a b : TrackedMember} {collection other : Collection}
    (h : a.member.pascalName ≠ b.member.pascalName) :
    ¬ (a.addToSignature collection).Clashes types (b.addToSignature other) :=
  fun clash => h ((String.append_right_inj _).mp clash.1)
/-! ## Signatures under fixed names -/

theorem mem_signaturesOf_buildersOf_iff {plan : MemberPlan} {signature : Signature} :
    signature ∈ signaturesOf entity config (GeneratedClass.buildersOf entity config builder plan) ↔
      (builder.hasBuild = false ∧ entity.constructorParameters.isSome = true ∧
        signature = ⟨names.build, []⟩) ∨
      (builder.hasBuildMany = false ∧ canBuild entity builder = true ∧
        signature = ⟨names.buildMany, [.declared (.keyword "int")]⟩) ∨
      ∃ parameters, config.builder.defaultCreator = true ∧ builder.hasBuildDefault = false ∧
        entity.constructorParameters = some parameters ∧ signature =
          ⟨names.buildDefault, parameters.map fun parameter => .declared parameter.type⟩ := by
  simp only [mem_signaturesOf_iff, GeneratedClass.mem_buildersOf_iff]
  constructor
  · rintro ⟨member, ⟨parameters, absent, some, rfl⟩ | ⟨absent, can, rfl⟩ |
      ⟨parameters, asked, absent, some, rfl⟩, written⟩
    · exact .inl ⟨absent, by simp [some], (Option.some.inj written).symm⟩
    · exact .inr (.inl ⟨absent, can, (Option.some.inj written).symm⟩)
    · exact .inr (.inr ⟨parameters, asked, absent, some, (Option.some.inj written).symm⟩)
  · rintro (⟨absent, some, rfl⟩ | ⟨absent, can, rfl⟩ | ⟨parameters, asked, absent, some, rfl⟩)
    · obtain ⟨parameters, some⟩ := Option.isSome_iff_exists.mp some
      exact ⟨_, .inl ⟨parameters, absent, some, rfl⟩, rfl⟩
    · exact ⟨_, .inr (.inl ⟨absent, can, rfl⟩), rfl⟩
    · exact ⟨_, .inr (.inr ⟨parameters, asked, absent, some, rfl⟩), rfl⟩

/-- Of the ways to make a builder, only the factory is a method. -/
theorem signaturesOf_creatorsOf :
    signaturesOf entity config (GeneratedClass.creatorsOf entity config builder) =
      ((config.builder.factoryMethod.filter fun name => !builder.declares name).map
        fun name => ⟨name, []⟩).toList := by
  simp only [GeneratedClass.creatorsOf, signaturesOf_append]
  have creator : ∀ (p : Prop) [Decidable p], signaturesOf entity config
      (if p then [.creator] else []) = [] := by
    intro p _
    split <;> rfl
  have cast : ∀ (p : Prop) [Decidable p], signaturesOf entity config
      (if p then [.implicitCast] else []) = [] := by
    intro p _
    split <;> rfl
  rw [creator, cast, List.append_nil, List.append_nil]
  cases config.builder.factoryMethod.filter fun name => !builder.declares name <;> rfl

theorem mem_signaturesOf_creatorsOf_iff {signature : Signature} :
    signature ∈ signaturesOf entity config (GeneratedClass.creatorsOf entity config builder) ↔
      ∃ name, config.builder.factoryMethod = some name ∧ builder.declares name = false ∧
        signature = ⟨name, []⟩ := by
  simp [signaturesOf_creatorsOf, @eq_comm _ signature, and_assoc]

theorem mem_signaturesOf_hooksOf_iff {plan : MemberPlan} {signature : Signature} :
    signature ∈ signaturesOf entity config (GeneratedClass.hooksOf entity builder plan) ↔
      (generatesConstructor builder = true ∧ builder.hasPreBuild = false ∧
        signature = ⟨names.preBuild, []⟩) ∨
      (generatesBuild entity builder = true ∧ builder.hasPostBuild = false ∧
        signature = ⟨names.postBuild, [.entity entity.type]⟩) ∨
      (generatesBuild entity builder = true ∧ plan.unreachable ≠ [] ∧
        builder.declares names.setUnreachable = false ∧
        GeneratedMember.setUnreachable.signature? entity config = some signature) := by
  simp only [mem_signaturesOf_iff, GeneratedClass.mem_hooksOf_iff]
  constructor
  · rintro ⟨member,
      ⟨makes, absent, rfl⟩ | ⟨builds, absent, rfl⟩ | ⟨builds, some, absent, rfl⟩, written⟩
    · exact .inl ⟨makes, absent, (Option.some.inj written).symm⟩
    · exact .inr (.inl ⟨builds, absent, (Option.some.inj written).symm⟩)
    · exact .inr (.inr ⟨builds, some, absent, written⟩)
  · rintro (⟨makes, absent, rfl⟩ | ⟨builds, absent, rfl⟩ | ⟨builds, some, absent, written⟩)
    · exact ⟨_, .inl ⟨makes, absent, rfl⟩, rfl⟩
    · exact ⟨_, .inr (.inl ⟨builds, absent, rfl⟩), rfl⟩
    · exact ⟨_, .inr (.inr ⟨builds, some, absent, rfl⟩), written⟩

variable (entity config builder) in
/-- Methods under fixed names are written in a fixed order, each once. -/
theorem map_name_fixed_sublist (plan : MemberPlan) :
    ((signaturesOf entity config (GeneratedClass.buildersOf entity config builder plan) ++
      signaturesOf entity config (GeneratedClass.hooksOf entity builder plan)).map (·.name)).Sublist
      (([names.build] ++ [names.buildMany] ++ [names.buildDefault]) ++
        ([names.preBuild] ++ [names.postBuild] ++ [names.setUnreachable])) := by
  simp only [GeneratedClass.buildersOf, GeneratedClass.hooksOf, signaturesOf_append,
    List.map_append]
  refine .append (.append (.append ?_ ?_) ?_) (.append (.append ?_ ?_) ?_)
  · cases entity.constructorParameters <;> split <;> simp [signaturesOf, GeneratedMember.signature?]
  · split <;> simp [signaturesOf, GeneratedMember.signature?]
  · cases entity.constructorParameters <;> split <;> simp [signaturesOf, GeneratedMember.signature?]
  all_goals split <;> simp [signaturesOf, GeneratedMember.signature?]

variable (types entity config builder) in
theorem pairwise_fixed (plan : MemberPlan) :
    (signaturesOf entity config (GeneratedClass.buildersOf entity config builder plan) ++
      signaturesOf entity config (GeneratedClass.hooksOf entity builder plan)).Pairwise
      fun a b => ¬ a.Clashes types b := by
  have distinct := (map_name_fixed_sublist entity config builder plan).nodup (by decide)
  exact (List.pairwise_map.mp distinct).imp fun {a b} name clash => name clash.1

/-- Fixed names differ, so a clash between methods that are not for a member is with the
factory. -/
theorem pairwise_fixed_iff {plan : MemberPlan} :
    (signaturesOf entity config (GeneratedClass.buildersOf entity config builder plan) ++
        (signaturesOf entity config (GeneratedClass.creatorsOf entity config builder) ++
          signaturesOf entity config (GeneratedClass.hooksOf entity builder plan))).Pairwise
        (fun a b => ¬ a.Clashes types b) ↔
      ∀ f ∈ signaturesOf entity config (GeneratedClass.creatorsOf entity config builder),
        (∀ a ∈ signaturesOf entity config (GeneratedClass.buildersOf entity config builder plan),
          ¬ a.Clashes types f) ∧
        ∀ b ∈ signaturesOf entity config (GeneratedClass.hooksOf entity builder plan),
          ¬ f.Clashes types b := by
  have fixed := List.pairwise_append.mp (pairwise_fixed types entity config builder plan)
  have single : (signaturesOf entity config
      (GeneratedClass.creatorsOf entity config builder)).Pairwise
      fun a b => ¬ a.Clashes types b := by
    rw [signaturesOf_creatorsOf]
    cases config.builder.factoryMethod.filter fun name => !builder.declares name <;> simp
  simp only [List.pairwise_append, List.mem_append]
  constructor
  · rintro ⟨-, ⟨-, -, hooks⟩, builders⟩
    exact fun f hf => ⟨fun a ha => builders a ha f (.inl hf), hooks f hf⟩
  · intro apart
    refine ⟨fixed.1, ⟨single, fixed.2.1, fun f hf => (apart f hf).2⟩, ?_⟩
    rintro a ha b (hb | hb)
    · exact (apart b hb).1 a ha
    · exact fixed.2.2 a ha b hb

end FluentGen
