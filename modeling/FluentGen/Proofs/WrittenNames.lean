import FluentGen.Proofs.ReservedWords
import FluentGen.Proofs.StandingAlone
import FluentGen.Proofs.UsableConfigurations
/-!
# Names that are written

Members may be called like reserved words, which are identifiers after an `@` only. Parameters are
escaped, and what is put in front of a name makes another word of it. The properties that building
assigns are written as they are called.

## Main definitions
* `Entity.NamedBy`: whether all members are called by identifiers.
* `MemberPlan.assigned`: the properties that building assigns.
* `GeneratedClass.WritesNames`: whether everything that is written for a member is a name.

## Main statements
* `GeneratedClass.Generates.notMem_reservedWords`: one declaration writes no reserved word.
* `writesNames_iff`: when the text of a builder has no reserved word in the place of a name.
-/
namespace FluentGen

/-- Whether all members are called by what is spelled like identifiers, reserved words among them. -/
def Entity.NamedBy (chars : IdentifierChars) (entity : Entity) : Prop :=
  ∀ member ∈ entity.parameters ++ entity.settableProperties ++ entity.readOnlyProperties,
    chars.Spells member.name

/-- The properties that building assigns. -/
def MemberPlan.assigned (plan : MemberPlan) (entity : Entity) : List Member :=
  entity.settableForGeneration.filter fun property => !plan.skips property.pascalName

/-- Whether names of members are written as names, and can be told from what is written for them. -/
structure GeneratedClass.WritesNames (c : GeneratedClass) (entity : Entity) (plan : MemberPlan) :
    Prop where
  notReserved : ∀ name ∈ c.writtenNames, name ∉ reservedWords
  /-- Whatever a format makes of it, the field of a member is a name. -/
  field_notReserved : ∀ tracked ∈ plan.tracked, tracked.fieldName ∉ reservedWords
  /-- The targets of assignments are the properties that are assigned. -/
  targets : ∀ method, .build method ∈ c.members →
    method.initializers.map (stripAt ·.property) = (plan.assigned entity).map (·.name)
  /-- The parameters of the method that builds in one step are those of the constructor. -/
  parameters : ∀ parameters, .buildDefault parameters ∈ c.members →
    parameters.map (stripAt <| escapeIdentifier ·.name) = entity.parameters.map (·.name)

variable {model : Compilation} {entity : Entity} {config : Configuration} {builder : NamedType}
  {chars : IdentifierChars}

namespace IdentifierChars

theorem spells_of_letters {word : String} (nonempty : word ≠ "")
    (letters : word.toList.all chars.isLetter = true) : chars.Spells word := by
  rw [List.all_eq_true] at letters
  cases text : word.toList with
  | nil => exact absurd (String.toList_eq_nil_iff.mp text) nonempty
  | cons first rest =>
    rw [text, List.forall_mem_cons] at letters
    exact ⟨first, rest, text, .inl letters.1, fun c h => .inl (.inl (letters.2 c h))⟩

theorem Spells.ne_empty {name : String} (h : chars.Spells name) : name ≠ "" := by
  obtain ⟨first, rest, text, -⟩ := h
  rintro rfl
  cases text

theorem Spells.head?_ne_at {name : String} (h : chars.Spells name) : '@' ∉ name.toList.head? := by
  obtain ⟨first, rest, text, starts, -⟩ := h
  rw [text]
  rintro ⟨⟩
  obtain letter | ⟨⟨⟩⟩ := isAlphanumeric_of_starts starts
  exact absurd letter (by decide +kernel)

end IdentifierChars

theorem MemberPlan.targets_buildMethod (plan : MemberPlan) (entity : Entity)
    (parameters : List Member) :
    (plan.buildMethod entity parameters).initializers.map (·.property) =
      (plan.assigned entity).map (·.name) := by
  simp only [buildMethod, assigned, List.map_map, Function.comp_def]

theorem MemberPlan.exists_fieldName_of_box? {plan : MemberPlan} {member : Member} {field : String}
    (h : (plan.buildValue member).box? = some field) :
    ∃ tracked : TrackedMember, tracked.fieldName = field := by
  unfold buildValue at h
  split at h
  next tracked _ =>
    refine ⟨tracked, ?_⟩
    split at h
    · cases h
    · exact Option.some.inj h
  next => cases h

/-- A declaration writes no reserved word but for the properties that are assigned. -/
theorem GeneratedClass.Generates.notMem_reservedWords {plan : MemberPlan} {member : GeneratedMember}
    (h : Generates entity config builder plan member)
    (nonempty : ∀ tracked ∈ plan.tracked, tracked.member.name ≠ "")
    (assigned : generatesBuild entity builder = true →
      ∀ property ∈ plan.assigned entity, property.name ∉ reservedWords) :
    ∀ name ∈ member.writtenNames config, name ∉ reservedWords := by
  cases h with
  | constructor =>
    intro name hname
    obtain ⟨_, -, rfl⟩ := List.mem_map.mp hname
    exact TrackedMember.fieldName_notMem_reservedWords _
  | setter htracked =>
    exact List.forall_mem_cons.mpr
      ⟨TrackedMember.setterName_notMem_reservedWords config (nonempty _ htracked),
        List.forall_mem_singleton.mpr (TrackedMember.fieldName_notMem_reservedWords _)⟩
  | addTo =>
    exact List.forall_mem_cons.mpr ⟨TrackedMember.addToName_notMem_reservedWords _,
      List.forall_mem_singleton.mpr (TrackedMember.fieldName_notMem_reservedWords _)⟩
  | build absent found =>
    intro name hname
    rw [GeneratedMember.writtenNames, plan.targets_buildMethod, plan.values_buildMethod found] at hname
    simp only [List.mem_append, List.mem_map, List.mem_filterMap] at hname
    obtain (⟨property, hproperty, rfl⟩ | ⟨_, ⟨_, -, rfl⟩, boxed⟩) | ⟨_, -, rfl⟩ := hname
    · exact assigned (by simp [generatesBuild, absent, found]) property hproperty
    · obtain ⟨_, rfl⟩ := MemberPlan.exists_fieldName_of_box? boxed
      exact TrackedMember.fieldName_notMem_reservedWords _
    · exact TrackedMember.fieldName_notMem_reservedWords _
  | buildDefault =>
    intro name hname
    obtain ⟨_, -, rfl⟩ := List.mem_map.mp hname
    exact escapeIdentifier_notMem_reservedWords _
  | _ => exact List.forall_mem_nil _

theorem GeneratedClass.mem_writtenNames_of_assigned (builds : generatesBuild entity builder = true)
    {property : Member}
    (h : property ∈ (planMembers model entity config builder).assigned entity) :
    property.name ∈ (GeneratedClass.of model entity config builder).writtenNames := by
  obtain ⟨absent, constructs⟩ := Bool.and_eq_true_iff.mp builds
  obtain ⟨parameters, found⟩ := Option.isSome_iff_exists.mp constructs
  have generated : .build ((planMembers model entity config builder).buildMethod entity parameters) ∈
      (GeneratedClass.of model entity config builder).members :=
    mem_members_of_iff.mpr (.build (by simpa using absent) found)
  have target : property.name ∈ GeneratedMember.writtenNames config
      (.build ((planMembers model entity config builder).buildMethod entity parameters)) := by
    refine List.mem_append_left _ (List.mem_append_left _ ?_)
    rw [MemberPlan.targets_buildMethod]
    exact List.mem_map_of_mem h
  exact List.mem_append_right _ (List.mem_flatMap_of_mem generated target)

namespace Entity.NamedBy

variable (named : entity.NamedBy chars)
include named

theorem parameter {member : Member} (h : member ∈ entity.parameters) : chars.Spells member.name :=
  named member (List.mem_append_left _ (List.mem_append_left _ h))

theorem settable {member : Member} (h : member ∈ entity.settableForGeneration) :
    chars.Spells member.name :=
  named member (List.mem_append_left _ (List.mem_append_right _ (List.mem_of_mem_filter h)))

theorem tracked {tracked : TrackedMember}
    (h : tracked ∈ (planMembers model entity config builder).tracked) :
    chars.Spells tracked.member.name := by
  have candidate := mem_of_mem_distinctBy (mem_tracked_iff.mp h).1
  obtain (parameter | settable) | readOnly := by
    simpa only [List.mem_append, List.mem_ite_nil_right] using candidate
  · exact named.parameter parameter
  · exact named.settable settable
  · exact named _ (List.mem_append_right _ (List.mem_of_mem_filter readOnly.2))

end Entity.NamedBy

/-- The text of a builder writes names that are made from those of members where they stand alone, and
they are all right exactly if no property is assigned that is called like a reserved word. -/
theorem writesNames_iff (model : Compilation) (config : Configuration) (builder : NamedType)
    (named : entity.NamedBy chars) :
    (∀ name ∈ (GeneratedClass.of model entity config builder).writtenNames,
      StandsAlone name (synthesize model entity config builder).text) ∧
    ((GeneratedClass.of model entity config builder).WritesNames entity
        (planMembers model entity config builder) ↔
      (GeneratedClass.generatesBuild entity builder = true →
        ∀ property ∈ (planMembers model entity config builder).assigned entity,
          property.name ∉ reservedWords)) := by
  refine ⟨fun name h => GeneratedClass.standsAlone_sourceText _ h,
    fun writes builds property h => ?_, fun assigned => ⟨fun name h => ?_, ?_, ?_, ?_⟩⟩
  · exact writes.notReserved _ (GeneratedClass.mem_writtenNames_of_assigned builds h)
  · obtain h | h := List.mem_append.mp h
    · obtain ⟨field, -, h⟩ := List.mem_flatMap.mp h
      cases field with
      | fixture => cases h
      | backing tracked =>
        obtain rfl := List.mem_singleton.mp h
        exact tracked.fieldName_notMem_reservedWords
    · obtain ⟨member, hmember, h⟩ := List.mem_flatMap.mp h
      exact (GeneratedClass.mem_members_of_iff.mp hmember).notMem_reservedWords
        (fun tracked htracked => (named.tracked htracked).ne_empty) assigned name h
  · exact fun tracked _ => tracked.fieldName_notMem_reservedWords
  · intro method hmethod
    cases GeneratedClass.mem_members_of_iff.mp hmethod with
    | build absent found =>
      rw [MemberPlan.buildMethod, List.map_map]
      exact List.map_congr_left fun property h =>
        stripAt_eq_self (named.settable (List.mem_of_mem_filter h)).head?_ne_at
  · intro parameters hparameters
    cases GeneratedClass.mem_members_of_iff.mp hparameters with
    | buildDefault asked absent found =>
      have passed : entity.parameters = parameters := by rw [Entity.parameters, found]; rfl
      rw [passed]
      exact List.map_congr_left fun parameter h =>
        stripAt_escapeIdentifier (named.parameter (passed ▸ h)).head?_ne_at

/-- A class with a constructor parameter and a property to assign. -/
def Entity.ofNames (parameter property : String) : Entity where
  name := "Order"
  qualifier := "Shop"
  type := .named "Shop" "Order" .classType
  openParameters := []
  isAbstract := false
  constructorParameters := some [⟨parameter, .keyword "int", .constructorParameter⟩]
  settableProperties := [⟨property, .keyword "int", .settableProperty⟩]
  readOnlyProperties := []

/-- A parameter that is called like a reserved word is escaped. -/
theorem writesNames_iff_class :
    let entity := Entity.ofNames "class" "Event"
    let builder : NamedType := { name := "OrderBuilder" }
    entity.NamedBy .ascii ∧
    StandsAlone "@class" (synthesize {} entity .default builder).text ∧
    (GeneratedClass.of {} entity .default builder).WritesNames entity
      (planMembers {} entity .default builder) := by
  intro entity builder
  have named : entity.NamedBy .ascii :=
    List.forall_mem_cons.mpr ⟨IdentifierChars.spells_of_letters (by decide) (by decide),
      List.forall_mem_singleton.mpr (IdentifierChars.spells_of_letters (by decide) (by decide))⟩
  obtain ⟨written, writes_iff⟩ := writesNames_iff {} .default builder named
  exact ⟨named, written "@class" (by decide +kernel), writes_iff.mpr (by decide +kernel)⟩

/-- A property that is called like a reserved word is assigned under this word. -/
theorem not_writesNames_event :
    let entity := Entity.ofNames "id" "event"
    let builder : NamedType := { name := "OrderBuilder" }
    let plan := planMembers {} entity .default builder
    entity.NamedBy .ascii ∧
    (plan.assigned entity).map (·.name) = ["event"] ∧ "event" ∈ reservedWords ∧
    "event" ∈ (GeneratedClass.of {} entity .default builder).writtenNames ∧
    ¬ (GeneratedClass.of {} entity .default builder).WritesNames entity plan := by
  intro entity builder plan
  have named : entity.NamedBy .ascii :=
    List.forall_mem_cons.mpr ⟨IdentifierChars.spells_of_letters (by decide) (by decide),
      List.forall_mem_singleton.mpr (IdentifierChars.spells_of_letters (by decide) (by decide))⟩
  have written : "event" ∈ (GeneratedClass.of {} entity .default builder).writtenNames := by
    decide +kernel
  exact ⟨named, by decide +kernel, by decide, written,
    fun writes => writes.notReserved "event" written (by decide)⟩

end FluentGen
