import FluentGen.Proofs.UnbrokenNames
/-!
# The layout of a generated class

Whatever is generated, the writer of a class comes back to the margin and closes what it opens; and if
no name and no option has a line break, blank lines stand by themselves in the text.

## Main definitions
* `UnbrokenNames`: whether no name and no option that a builder is made from has a line break.
* `Writer.LaysOut`: whether a writer that closes what it opens writes a text.
* `Text.IsWellSpaced`: whether blank lines stand by themselves in a text.

## Main statements
* `UnbrokenNames.isUnbroken_layout`: a member has the line breaks of names and options, and no others.
* `laysOut_synthesize`: every generated text is laid out.
-/
namespace FluentGen

open Text (OnOneLine)
open Layout (line)

/-- Whether no name and no option that a builder is made from has a line break. -/
@[mk_iff]
structure UnbrokenNames (model : Compilation) (entity : Entity) (config : Configuration)
    (builder : NamedType) : Prop where
  model : model.ExtendsUnbroken
  entity : entity.Unbroken
  config : config.Unbroken
  builder : builder.Unbroken

instance (model : Compilation) (entity : Entity) (config : Configuration) (builder : NamedType) :
    Decidable (UnbrokenNames model entity config builder) :=
  decidable_of_iff' _ (unbrokenNames_iff model entity config builder)

/-! ## Expressions -/

namespace Configuration.Unbroken

variable {config : Configuration} (h : config.Unbroken)
include h

theorem mockedText {field : String} (unbroken : OnOneLine field) :
    OnOneLine (mockedText config field) :=
  Text.onOneLine_expand h.objectFormat (List.forall_mem_singleton.mpr unbroken)

theorem fixtureSetup {setup : String} (found : fixtureSetup? config = some setup) :
    OnOneLine setup := by
  obtain ⟨text, given, made⟩ := fixtureSetup?_eq_some found
  have statement : OnOneLine (Text.expand (Text.trim text) [names.fixtureField]) :=
    Text.onOneLine_expand (Text.onOneLine_trim (h.setup text given)) (by decide)
  obtain ⟨rfl, -⟩ | rfl := made
  · exact statement
  · exact Text.onOneLine_append.mpr ⟨statement, by decide⟩

end Configuration.Unbroken

theorem onOneLine_boxText {type : TypeRef} (h : type.Unbroken) : OnOneLine (boxText type) := by
  simp +decide [boxText, h.onOneLine_display]

theorem onOneLine_newBox {type : TypeRef} {value : String} (h : type.Unbroken)
    (h' : OnOneLine value) : OnOneLine (newBox type value) := by
  simp +decide [newBox, onOneLine_boxText h, h']

theorem onOneLine_defaultText (config : Configuration) {type : TypeRef} (h : type.Unbroken) :
    OnOneLine (defaultText config type) := by
  unfold defaultText
  split <;> simp +decide [h.onOneLine_display]

/-- Whether no name that a value is written with has a line break. -/
def BuildValue.Unbroken : BuildValue → Prop
  | .mocked field => OnOneLine field
  | .boxed field type => OnOneLine field ∧ type.Unbroken
  | .untracked type => type.Unbroken

theorem BuildValue.Unbroken.onOneLine_text {config : Configuration} (h : config.Unbroken)
    {value : BuildValue} (unbroken : value.Unbroken) : OnOneLine (value.text config) := by
  cases value with
  | mocked field => exact h.mockedText unbroken
  | boxed field type =>
    obtain ⟨field', type'⟩ := unbroken
    simp +decide [text, field', onOneLine_defaultText config type']
  | untracked type => exact onOneLine_defaultText config unbroken

/-- A member starts with an empty collection only if it is one. -/
theorem TrackedMember.collection_eq_of_initialValue? {tracked : TrackedMember}
    {config : Configuration} {collection : Collection}
    (h : tracked.initialValue? config = some (.emptyCollection collection)) :
    tracked.classification.collection = some collection := by
  unfold initialValue? at h
  split at h
  · cases h
  split at h
  · cases h
  obtain ⟨other, found, same⟩ := Option.map_eq_some_iff.mp (Option.ite_none_right_eq_some.mp h).2
  cases same
  exact found

namespace TrackedMember.Unbroken

variable {tracked : TrackedMember} (h : tracked.Unbroken)
include h

theorem fieldName : OnOneLine tracked.fieldName :=
  onOneLine_backingFieldName h.member.name

theorem pascalName : OnOneLine tracked.member.pascalName :=
  onOneLine_pascalCase h.member.name

theorem type : tracked.type.Unbroken :=
  h.member.type

theorem setterName {config : Configuration} (h' : config.Unbroken) :
    OnOneLine (tracked.setterName config) :=
  Text.onOneLine_append.mpr ⟨h'.methodPrefix, h.pascalName⟩

theorem addToName : OnOneLine tracked.addToName :=
  Text.onOneLine_append.mpr ⟨by decide, h.pascalName⟩

theorem bare : tracked.type.bare.Unbroken :=
  h.type.withNullable false

theorem fieldType {config : Configuration} (h' : config.Unbroken) :
    OnOneLine (tracked.fieldType config) := by
  unfold TrackedMember.fieldType FluentGen.fieldType
  split
  · exact Text.onOneLine_expand h'.typeFormat (List.forall_mem_singleton.mpr h.bare.onOneLine_display)
  · exact Text.onOneLine_append.mpr ⟨onOneLine_boxText h.type, by decide⟩

theorem emptyText {collection : Collection} (unbroken : collection.Unbroken) :
    OnOneLine (collection.emptyText tracked.type) := by
  have around {before text after : String} (h : OnOneLine before ∧ OnOneLine after)
      (inside : OnOneLine text) : OnOneLine (before ++ text ++ after) :=
    Text.onOneLine_append.mpr ⟨Text.onOneLine_append.mpr ⟨h.1, inside⟩, h.2⟩
  have backing := (unbroken.backingType h.bare).onOneLine_display
  cases collection with
  | array element => exact around (by decide) (List.forall_mem_singleton.mp unbroken).onOneLine_display
  | _ => exact around (by decide) backing

theorem initialText {config : Configuration} (h' : config.Unbroken) {value : InitialValue}
    (found : tracked.initialValue? config = some value) :
    OnOneLine (tracked.initialText config value) := by
  have type := h.bare.onOneLine_display
  cases value with
  | mock => exact Text.onOneLine_expand h'.valueFormat (List.forall_mem_singleton.mpr type)
  | fixture =>
    refine onOneLine_newBox h.type (Text.onOneLine_expand h'.createFormat ?_)
    exact List.forall_mem_cons.mpr ⟨by decide, List.forall_mem_singleton.mpr type⟩
  | emptyCollection collection =>
    exact onOneLine_newBox h.type
      (h.emptyText (h.collection collection (collection_eq_of_initialValue? found)))

end TrackedMember.Unbroken

/-! ## Layouts -/

namespace Layout

/-- Whether no line of a piece has a line break in it. -/
def IsUnbroken (piece : Layout) : Prop :=
  piece.Meets (·.Writes OnOneLine)

@[simp]
theorem isUnbroken_line {text : String} : (line text).IsUnbroken ↔ OnOneLine text :=
  meets_line

@[simp]
theorem isUnbroken_blank : blank.IsUnbroken :=
  meets_blank.mpr (by decide : OnOneLine "")

@[simp]
theorem isUnbroken_block {body : List Layout} {suffix : String} :
    (block body suffix).IsUnbroken ↔ (∀ piece ∈ body, piece.IsUnbroken) ∧ OnOneLine suffix := by
  have braces : OnOneLine "\x7b" ∧ OnOneLine "\x7d" := by decide
  simp [IsUnbroken, Writer.Step.Writes, braces]

@[simp]
theorem isUnbroken_indented {body : List Layout} :
    (indented body).IsUnbroken ↔ ∀ piece ∈ body, piece.IsUnbroken := by
  simp [IsUnbroken, Writer.Step.Writes]

theorem isUnbroken_separate {groups : List (List Layout)}
    (h : ∀ group ∈ groups, ∀ piece ∈ group, piece.IsUnbroken) :
    ∀ piece ∈ separate groups, piece.IsUnbroken := by
  have kept : ∀ group ∈ groups.filter (!·.isEmpty), ∀ piece ∈ group, piece.IsUnbroken :=
    fun group hgroup => h group (List.mem_of_mem_filter hgroup)
  unfold separate
  cases shown : groups.filter (!·.isEmpty) with
  | nil => exact nofun
  | cons group others =>
    obtain ⟨first, others⟩ := List.forall_mem_cons.mp (shown ▸ kept)
    rw [intercalate_singleton_cons]
    refine List.forall_mem_append.mpr ⟨first, List.forall_mem_flatMap.mpr fun other hother => ?_⟩
    exact List.forall_mem_cons.mpr ⟨isUnbroken_blank, others other hother⟩

/-- The lines of pieces without line breaks. -/
theorem onOneLine_of_mem_allLines {pieces : List Layout} (h : ∀ piece ∈ pieces, piece.IsUnbroken)
    (depth : Nat) : ∀ written ∈ allLines depth pieces, OnOneLine written := by
  have blanks (depth : Nat) : OnOneLine (indentation depth) := by
    simp [OnOneLine, indentation, List.mem_replicate]
  exact forall_mem_allLines
    (fun depth text unbroken => Text.onOneLine_append.mpr ⟨blanks depth, unbroken⟩) h depth

end Layout

open Layout (IsUnbroken)

namespace GeneratedMember

variable {config : Configuration} {tracked : TrackedMember}

/-- A declaration with a body in braces. -/
theorem isUnbroken_block {head : String} {body : List Layout} (h : OnOneLine head)
    (inside : ∀ piece ∈ body, piece.IsUnbroken) :
    ∀ piece ∈ [line head, .block body ""], piece.IsUnbroken := by
  have suffix : OnOneLine "" := by decide
  simpa [↓List.forall_mem_cons, h, suffix] using inside

theorem isUnbroken_setterLayout (h : config.Unbroken) (h' : tracked.Unbroken) {type : String}
    (unbroken : OnOneLine type) : ∀ piece ∈ setterLayout type config tracked, piece.IsUnbroken := by
  have name := h'.setterName h
  have fieldType := h'.fieldType h
  have value := h'.type.onOneLine_display
  have box := onOneLine_newBox h'.type (by decide : OnOneLine "value")
  have field := h'.fieldName
  unfold setterLayout
  split <;> simp +decide [↓List.forall_mem_cons, unbroken, name, fieldType, value, box, field]

theorem isUnbroken_addToBody (h : tracked.Unbroken) {collection : Collection}
    (unbroken : collection.Unbroken) :
    ∀ piece ∈ addToBody tracked collection, piece.IsUnbroken := by
  have field := h.fieldName
  have box (value : String) (plain : OnOneLine value) := onOneLine_newBox h.type plain
  have backing := (unbroken.backingType h.bare).onOneLine_display
  have append : OnOneLine (if collection.isMap then "collection[item.Key] = item.Value;"
      else "collection.Add(item);") := by
    split <;> decide
  cases collection with
  | array element =>
    have element' := (List.forall_mem_singleton.mp unbroken).onOneLine_display
    simp +decide [addToBody, field, box, element']
  | _ => simp +decide [addToBody, field, box, backing, append]

theorem isUnbroken_callLayout {entityType terminator : String} {arguments : List String}
    (h : OnOneLine entityType) (h' : OnOneLine terminator)
    (unbroken : ∀ argument ∈ arguments, OnOneLine argument) :
    ∀ piece ∈ callLayout entityType arguments terminator, piece.IsUnbroken := by
  unfold callLayout
  split
  next => simp +decide [h, h']
  next last others reversed =>
    have written : ∀ argument ∈ last :: others, OnOneLine argument := fun argument hargument =>
      unbroken argument (List.mem_reverse.mp (reversed ▸ hargument))
    obtain ⟨last', others'⟩ := List.forall_mem_cons.mp written
    have earlier : ∀ piece ∈ others.reverse.map (fun argument => line (argument ++ ",")),
        piece.IsUnbroken :=
      List.forall_mem_map.mpr fun argument hargument => by
        simp +decide [others' argument (List.mem_reverse.mp hargument)]
    have ended : (line (last ++ ")" ++ terminator)).IsUnbroken := by simp +decide [last', h']
    have listed := List.forall_mem_append.mpr ⟨earlier, List.forall_mem_singleton.mpr ended⟩
    simpa +decide [↓List.forall_mem_cons, h] using listed

theorem isUnbroken_unreachableLayout (h : config.Unbroken) (h' : tracked.Unbroken) :
    ∀ piece ∈ unreachableLayout config tracked, piece.IsUnbroken := by
  have field := h'.fieldName
  have name := h'.member.name
  have mocked := h.mockedText field
  unfold unreachableLayout
  split <;> simp +decide [field, name, mocked]

theorem isUnbroken_buildBody (h : config.Unbroken) {entityType : String} (h' : OnOneLine entityType)
    {method : BuildMethod} (arguments : ∀ value ∈ method.arguments, value.Unbroken)
    (initializers : ∀ initializer ∈ method.initializers,
      OnOneLine initializer.property ∧ initializer.value.Unbroken)
    (unreachable : ∀ tracked ∈ method.unreachable, tracked.Unbroken) :
    ∀ piece ∈ buildBody entityType config method, piece.IsUnbroken := by
  have passed : ∀ argument ∈ method.arguments.map (BuildValue.text config), OnOneLine argument :=
    List.forall_mem_map.mpr fun value hvalue => (arguments value hvalue).onOneLine_text h
  have call (terminator : String) (plain : OnOneLine terminator) :=
    isUnbroken_callLayout h' plain passed
  unfold buildBody
  simp only [List.forall_mem_append, List.forall_mem_flatMap]
  refine ⟨⟨?_, fun tracked htracked => isUnbroken_unreachableLayout h (unreachable tracked htracked)⟩,
    by simp +decide⟩
  split
  · exact call ";" (by decide)
  · refine List.forall_mem_append.mpr ⟨call "" (by decide), List.forall_mem_singleton.mpr ?_⟩
    refine Layout.isUnbroken_block.mpr ⟨List.forall_mem_map.mpr fun initializer hmem => ?_, by decide⟩
    obtain ⟨property, value⟩ := initializers initializer hmem
    simp +decide [property, value.onOneLine_text h]

theorem isUnbroken_buildDefaultLayout {entityType : String} (h : OnOneLine entityType)
    {parameters : List Member} (unbroken : ∀ parameter ∈ parameters, parameter.Unbroken) :
    ∀ piece ∈ buildDefaultLayout entityType parameters, piece.IsUnbroken := by
  have arguments : ∀ argument ∈ parameters.map (escapeIdentifier ·.name), OnOneLine argument :=
    List.forall_mem_map.mpr fun parameter hparameter =>
      onOneLine_escapeIdentifier (unbroken parameter hparameter).name
  have declarations : ∀ declaration ∈ parameters.map fun parameter =>
      parameter.type.display ++ " " ++ escapeIdentifier parameter.name ++ " = default(" ++
        parameter.type.display ++ ")", OnOneLine declaration :=
    List.forall_mem_map.mpr fun parameter hparameter => by
      have type := (unbroken parameter hparameter).type.onOneLine_display
      have name := onOneLine_escapeIdentifier (unbroken parameter hparameter).name
      simp +decide [type, name]
  have separator : OnOneLine ", " := by decide
  have arguments := Text.onOneLine_intercalate separator arguments
  have declarations := Text.onOneLine_intercalate separator declarations
  simp +decide [buildDefaultLayout, ↓List.forall_mem_cons, h, arguments, declarations]

theorem isUnbroken_setUnreachableLayout : ∀ piece ∈ setUnreachableLayout, piece.IsUnbroken := by
  delta setUnreachableLayout
  extract_lets flags
  have plain : OnOneLine flags :=
    Text.onOneLine_append.mpr ⟨Text.onOneLine_ofList (by decide), Text.onOneLine_ofList (by decide)⟩
  clear_value flags
  simp +decide [plain]

end GeneratedMember

/-! ## The class -/

namespace UnbrokenNames

variable {model : Compilation} {entity : Entity} {config : Configuration} {builder : NamedType}
  (h : UnbrokenNames model entity config builder)
include h

theorem tracked : ∀ tracked ∈ (planMembers model entity config builder).tracked, tracked.Unbroken :=
  unbroken_of_mem_tracked h.model h.entity h.builder

theorem entityType : OnOneLine (entityTypeText entity) := by
  have inner := (TypeRef.everywhere_iff.mp h.entity.type)
  exact TypeRef.Unbroken.onOneLine_display
    (TypeRef.everywhere_iff.mpr ⟨⟨inner.1.1, nofun⟩, inner.2⟩)

theorem builderType : OnOneLine (builderTypeText entity builder) := by
  have parameters : ∀ name ∈ entity.openParameters.map (·.name), OnOneLine name :=
    List.forall_mem_map.mpr fun parameter hparameter =>
      (h.entity.openParameters parameter hparameter).1
  have listed := Text.onOneLine_intercalate (by decide : OnOneLine ", ") parameters
  unfold builderTypeText
  split
  · exact h.builder.name
  · simp +decide [h.builder.name, listed]

theorem constraints : ∀ clause ∈ entity.constraintClauses, OnOneLine clause := by
  intro clause hclause
  obtain ⟨parameter, hparameter, made⟩ := List.mem_filterMap.mp hclause
  obtain ⟨name, types⟩ := h.entity.openParameters parameter hparameter
  unfold TypeParameter.constraintClause? at made
  have clause := (Option.ite_none_left_eq_some.mp made).2
  cases clause
  have parts : ∀ part ∈ (if parameter.referenceType then ["class"] else []) ++
      (if parameter.valueType then ["struct"] else []) ++
      parameter.constraintTypes.map TypeRef.display ++
      (if parameter.defaultConstructor && !parameter.valueType then ["new()"] else []),
      OnOneLine part := by
    have displays := List.forall_mem_map.mpr fun type htype => (types type htype).onOneLine_display
    simp only [List.forall_mem_append]
    refine ⟨⟨⟨?_, ?_⟩, displays⟩, ?_⟩ <;> split <;> decide
  have listed := Text.onOneLine_intercalate (by decide : OnOneLine ", ") parts
  exact Text.onOneLine_append.mpr ⟨by simp +decide [name], listed⟩

theorem imports : ∀ name ∈ importedNamespaces entity config, OnOneLine name := by
  intro name hname
  rw [Entity.importedNamespaces_eq, mem_distinctBy_id_iff, Entity.mem_importNames_iff] at hname
  obtain ((base | ⟨rfl, -⟩) | ⟨type, htype, qualifies⟩) | added := hname
  · exact (by decide : ∀ name ∈ baseNamespaces, OnOneLine name) name base
  · exact h.entity.qualifier
  · obtain ⟨parameter, hparameter, constrains⟩ := List.mem_flatMap.mp htype
    obtain ⟨part, hpart, qualified⟩ := List.mem_filterMap.mp qualifies
    have unbroken := (h.entity.openParameters parameter hparameter).2 type constrains
    exact (unbroken part hpart).2 name qualified
  · exact h.config.namespaces name added

theorem buildValue {member : Member} (unbroken : member.Unbroken) :
    ((planMembers model entity config builder).buildValue member).Unbroken := by
  unfold MemberPlan.buildValue
  split
  next tracked found =>
    have field := (h.tracked tracked (MemberPlan.find?_eq_some_iff.mp found).1).fieldName
    split
    · exact field
    · exact ⟨field, unbroken.type⟩
  next => exact unbroken.type

theorem parameter {parameters : List Member} (given : entity.constructorParameters = some parameters) :
    ∀ parameter ∈ parameters, parameter.Unbroken := by
  have parameters : entity.parameters = parameters := by simp [Entity.parameters, given]
  exact parameters ▸ (List.forall_mem_append.mp (List.forall_mem_append.mp h.entity.members).1).1

theorem initialText {tracked : TrackedMember} {value : InitialValue}
    (listed : (tracked, value) ∈ (planMembers model entity config builder).tracked.filterMap
      fun tracked => (tracked.initialValue? config).map fun value => (tracked, value)) :
    (line (tracked.fieldName ++ " = " ++ tracked.initialText config value ++ ";")).IsUnbroken := by
  obtain ⟨other, hother, found⟩ := List.mem_filterMap.mp listed
  obtain ⟨_, initial, same⟩ := Option.map_eq_some_iff.mp found
  cases same
  have unbroken := h.tracked tracked hother
  simp +decide [unbroken.fieldName, unbroken.initialText h.config initial]

theorem buildMethod {parameters : List Member} (given : entity.constructorParameters = some parameters) :
    ∀ piece ∈ GeneratedMember.buildBody (entityTypeText entity) config
      ((planMembers model entity config builder).buildMethod entity parameters), piece.IsUnbroken := by
  refine GeneratedMember.isUnbroken_buildBody h.config h.entityType ?_ ?_ ?_
  · exact List.forall_mem_map.mpr fun parameter hparameter =>
      h.buildValue (h.parameter given parameter hparameter)
  · refine List.forall_mem_map.mpr fun property hproperty => ?_
    have settable := List.mem_of_mem_filter (List.mem_of_mem_filter hproperty)
    have unbroken := h.entity.members property
      (List.mem_append_left _ (List.mem_append_right _ settable))
    exact ⟨unbroken.name, h.buildValue unbroken⟩
  · exact fun tracked htracked => h.tracked tracked (List.mem_of_mem_filter htracked)

/-- The lines of a member have no line breaks but those of names and options. -/
theorem isUnbroken_layout {member : GeneratedMember}
    (generated : member ∈ (GeneratedClass.of model entity config builder).members) :
    ∀ piece ∈ member.layout (GeneratedClass.of model entity config builder), piece.IsUnbroken := by
  have name : OnOneLine (GeneratedClass.of model entity config builder).name := h.builder.name
  have type : OnOneLine (GeneratedClass.of model entity config builder).builderType := h.builderType
  have entityType : OnOneLine (GeneratedClass.of model entity config builder).entityType :=
    h.entityType
  cases GeneratedClass.mem_members_of_iff.mp generated with
  | constructor _ =>
    refine GeneratedMember.isUnbroken_block (by simp +decide [name]) ?_
    have setup : ∀ text ∈ (fixtureSetup? config).toList, OnOneLine text := fun text htext =>
      h.config.fixtureSetup (Option.mem_toList.mp htext)
    refine List.forall_mem_append.mpr ⟨List.forall_mem_append.mpr
      ⟨List.forall_mem_map.mpr fun _ listed => h.initialText listed, ?_⟩, by simp +decide⟩
    simpa [↓List.forall_mem_map] using setup
  | setter htracked _ =>
    exact GeneratedMember.isUnbroken_setterLayout h.config (h.tracked _ htracked) type
  | addTo htracked asked =>
    obtain ⟨collection, -, found, -, same⟩ := TrackedMember.addTo?_eq_some_iff.mp asked
    cases same
    have tracked := h.tracked _ htracked
    have unbroken := tracked.collection _ found
    have items := unbroken.itemType.arrayOf.onOneLine_display
    exact GeneratedMember.isUnbroken_block (by simp +decide [type, tracked.addToName, items])
      (GeneratedMember.isUnbroken_addToBody tracked unbroken)
  | build _ given =>
    exact GeneratedMember.isUnbroken_block (by simp +decide [entityType]) (h.buildMethod given)
  | buildMany _ _ => simp +decide [GeneratedMember.layout, ↓List.forall_mem_cons, entityType]
  | buildDefault _ _ given =>
    exact GeneratedMember.isUnbroken_buildDefaultLayout entityType (h.parameter given)
  | factory asked _ =>
    simp +decide [GeneratedMember.layout, type, h.config.factoryMethod _ asked]
  | creator _ _ => simp +decide [GeneratedMember.layout, type]
  | implicitCast _ _ _ => simp +decide [GeneratedMember.layout, ↓List.forall_mem_cons, entityType, type]
  | preBuild _ _ => simp +decide [GeneratedMember.layout]
  | postBuild _ _ => simp +decide [GeneratedMember.layout, entityType]
  | setUnreachable _ _ _ => exact GeneratedMember.isUnbroken_setUnreachableLayout

theorem isUnbroken_field {field : GeneratedField}
    (generated : field ∈ (GeneratedClass.of model entity config builder).fields) :
    (field.layout config).IsUnbroken := by
  obtain fixture | backing := List.mem_append.mp generated
  · obtain rfl := List.mem_singleton.mp (List.mem_ite_nil_right.mp fixture).2
    have arguments : OnOneLine (config.fixture.constructorArguments.getD "") := by
      cases given : config.fixture.constructorArguments with
      | none => decide
      | some text => exact h.config.constructorArguments text given
    simp +decide [GeneratedField.layout, h.config.typeName, arguments]
  · obtain ⟨tracked, htracked, rfl⟩ := List.mem_map.mp backing
    have unbroken := h.tracked tracked (List.mem_of_mem_filter htracked)
    have initializer : OnOneLine (tracked.defaultField.elim "" fun field =>
        " = " ++ newBox tracked.type field) := by
      cases given : tracked.defaultField with
      | none => exact (by decide : OnOneLine "")
      | some field =>
        simp +decide [onOneLine_newBox unbroken.type (unbroken.defaultField field given)]
    simp +decide [GeneratedField.layout, unbroken.fieldType h.config, unbroken.fieldName, initializer]

theorem isUnbroken_classLayout :
    ∀ piece ∈ (GeneratedClass.of model entity config builder).classLayout, piece.IsUnbroken := by
  have body := Layout.isUnbroken_separate (List.forall_mem_cons.mpr
    ⟨List.forall_mem_map.mpr fun _ => h.isUnbroken_field,
      List.forall_mem_map.mpr fun _ => h.isUnbroken_layout⟩)
  refine List.forall_mem_cons.mpr ⟨?_, List.forall_mem_cons.mpr ⟨?_, List.forall_mem_singleton.mpr
    (Layout.isUnbroken_block.mpr ⟨body, by decide⟩)⟩⟩
  · exact Layout.isUnbroken_line.mpr (Text.onOneLine_append.mpr ⟨by decide, h.builderType⟩)
  · exact Layout.isUnbroken_indented.mpr (List.forall_mem_map.mpr fun clause hclause =>
      Layout.isUnbroken_line.mpr (h.constraints clause hclause))

theorem onOneLine_of_mem_heading :
    ∀ text ∈ (GeneratedClass.of model entity config builder).heading, OnOneLine text := by
  unfold GeneratedClass.heading
  refine List.forall_mem_append.mpr ⟨List.forall_mem_append.mpr ⟨by decide, ?_⟩, ?_⟩
  · split <;> decide
  · exact List.forall_mem_map.mpr fun name hname => by simp +decide [h.imports name hname]

/-- The lines of a file have no line breaks but those of names and options. -/
theorem isUnbroken_file :
    ∀ piece ∈ (GeneratedClass.of model entity config builder).layout, piece.IsUnbroken := by
  have lines {texts : List String} (unbroken : ∀ text ∈ texts, OnOneLine text) :
      ∀ piece ∈ texts.map line, piece.IsUnbroken :=
    List.forall_mem_map.mpr fun text htext => Layout.isUnbroken_line.mpr (unbroken text htext)
  have declaration : ∀ piece ∈ (GeneratedClass.of model entity config builder).declaration,
      piece.IsUnbroken := by
    unfold GeneratedClass.declaration
    split
    · exact h.isUnbroken_classLayout
    · refine GeneratedMember.isUnbroken_block ?_ h.isUnbroken_classLayout
      exact Text.onOneLine_append.mpr ⟨by decide, h.builder.qualifier⟩
  have ending : ∀ text ∈ (GeneratedClass.of model entity config builder).ending, OnOneLine text := by
    unfold GeneratedClass.ending
    split <;> decide
  rw [GeneratedClass.layout_eq]
  simp only [List.forall_mem_append]
  exact ⟨⟨⟨lines h.onOneLine_of_mem_heading, by simp⟩, declaration⟩, lines ending⟩

/-- A text without other line breaks has the lines of its layout. -/
theorem lines_synthesize :
    Text.lines (synthesize model entity config builder).text =
      Layout.allLines 0 (GeneratedClass.of model entity config builder).layout ++ [""] :=
  Text.lines_join_iff.mpr (Layout.onOneLine_of_mem_allLines h.isUnbroken_file 0)

end UnbrokenNames

/-! ## The text -/

/-- Whether a writer that is told the given steps writes a text, and comes back to the margin. -/
structure Writer.LaysOut (steps : List Writer.Step) (text : String) : Prop where
  writes : (Writer.run {} steps).text = text
  margin : (Writer.run {} steps).depth = 0
  /-- It is never told to go out at the margin. -/
  inside : Writer.StaysInside {} steps
  /-- It closes each block that it opens, in the opposite order. -/
  nested : Writer.Nested steps

/-- Whether blank lines stand by themselves, and not next to a brace that opens or closes what they
are in. -/
def Text.IsWellSpaced (text : String) : Prop :=
  (Text.lines text).IsChain Text.MayPrecede

variable (model : Compilation) (entity : Entity) (config : Configuration) (builder : NamedType) in
/-- Every generated text is written with its blocks closed, and with blank lines in their places if no
name and no option has a line break. -/
theorem laysOut_synthesize :
    Writer.LaysOut (GeneratedClass.of model entity config builder).steps
      (synthesize model entity config builder).text ∧
    (UnbrokenNames model entity config builder →
      Text.IsWellSpaced (synthesize model entity config builder).text) := by
  have nested := (GeneratedClass.of model entity config builder).nested_steps
  refine ⟨⟨GeneratedClass.text_run_steps _, nested.depth_run _, nested.staysInside _, nested⟩, ?_⟩
  intro unbroken
  rw [Text.IsWellSpaced, unbroken.lines_synthesize]
  exact (GeneratedClass.isVisible_of model entity config builder).isChain_layout

/-- An entity with a constructor parameter, a property that is a list and one that only reflection can
assign. -/
def orderShape : Entity where
  name := "Order"
  qualifier := "Shop"
  type := .named "Shop" "Order" .classType
  openParameters := []
  isAbstract := false
  constructorParameters := some [⟨"customer", .keyword "string", .constructorParameter⟩]
  settableProperties := [⟨"Lines", Framework.listOf (.keyword "string"), .settableProperty⟩]
  readOnlyProperties := [⟨"Total", .keyword "int", .readOnlyProperty⟩]

/-- Its builder has members with blank lines between them. -/
theorem laysOut_synthesize_order :
    let builder : NamedType := { name := "OrderBuilder", qualifier := "Shop" }
    UnbrokenNames {} orderShape .default builder ∧
      (GeneratedClass.of {} orderShape .default builder).members.length = 9 ∧
      Writer.LaysOut (GeneratedClass.of {} orderShape .default builder).steps
        (synthesize {} orderShape .default builder).text ∧
      Text.IsWellSpaced (synthesize {} orderShape .default builder).text := by
  intro builder
  have unbroken : UnbrokenNames {} orderShape .default builder := by decide
  obtain ⟨laysOut, spaced⟩ := laysOut_synthesize {} orderShape .default builder
  exact ⟨unbroken, by decide +kernel, laysOut, spaced unbroken⟩

end FluentGen
