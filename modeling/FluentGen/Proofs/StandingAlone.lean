import FluentGen.Proofs.Building
/-!
# Names that stand alone

A generated class writes names that are made from those of members: fields, methods, targets of
assignments and parameters. They stand in its text with no character of a name next to them, so that
each of them is read as one word.

## Main definitions
* `StandsAlone`: whether a name stands somewhere between delimiters.
* `GeneratedClass.writtenNames`: the names that are written on behalf of members.

## Main statements
* `Layout.Writes.standsAlone_render`: what stands alone in a line stands alone in the text.
* `GeneratedClass.standsAlone_sourceText`: the names that are written stand alone.
-/
namespace FluentGen

/-! ## Texts -/

/-- What may stand next to a name that is written on its own. -/
def delimiters : List Char :=
  ['\n', ' ', '(', ')', '.', ';', ',']

/-- Whether a name stands somewhere in a text with nothing but delimiters next to it. -/
def StandsAlone (name text : String) : Prop :=
  ∃ before after, text = before ++ name ++ after ∧
    (∀ c ∈ before.toList.getLast?, c ∈ delimiters) ∧ ∀ c ∈ after.toList.head?, c ∈ delimiters

theorem StandsAlone.append {name text : String} (h : StandsAlone name text) (before after : String)
    (opened : ∀ c ∈ before.toList.getLast?, c ∈ delimiters)
    (closed : ∀ c ∈ after.toList.head?, c ∈ delimiters) :
    StandsAlone name (before ++ text ++ after) := by
  obtain ⟨before', after', rfl, opened', closed'⟩ := h
  refine ⟨before ++ before', after' ++ after, by simp only [String.append_assoc], ?_, ?_⟩
  · intro c hc
    rw [String.toList_append, List.getLast?_append, Option.mem_def, Option.or_eq_some_iff] at hc
    exact hc.elim (opened' c) fun hc => opened c hc.2
  · intro c hc
    rw [String.toList_append, List.head?_append, Option.mem_def, Option.or_eq_some_iff] at hc
    exact hc.elim (closed' c) fun hc => closed c hc.2

theorem exists_intercalate_eq (separator : String) {text : String} {texts : List String}
    (h : text ∈ texts) : ∃ before after, separator.intercalate texts = before ++ text ++ after := by
  induction texts with
  | nil => cases h
  | cons first texts ih =>
    cases texts with
    | nil =>
      obtain rfl := List.mem_singleton.mp h
      exact ⟨"", "", by simp⟩
    | cons second others =>
      rw [String.intercalate_cons_cons]
      obtain rfl | h := List.mem_cons.mp h
      · exact ⟨"", separator ++ separator.intercalate (second :: others), by
          simp [String.append_assoc]⟩
      · obtain ⟨before, after, split⟩ := ih h
        exact ⟨first ++ separator ++ before, after, by simp [split, String.append_assoc]⟩

namespace Layout

/-- Whether a name stands alone in some line of a layout. -/
def Writes (pieces : List Layout) (name : String) : Prop :=
  SomeLine (StandsAlone name) pieces

variable {pieces : List Layout} {name : String}

theorem standsAlone_line {text : String} (h : StandsAlone name text) (depth : Nat) :
    StandsAlone name (indentation depth ++ text) := by
  have opened : ∀ c ∈ (indentation depth).toList.getLast?, c ∈ delimiters := by
    intro c hc
    have blank := List.mem_of_getLast? hc
    rw [indentation, String.toList_ofList] at blank
    rw [List.eq_of_mem_replicate blank]
    decide
  simpa using h.append (indentation depth) "" opened (by simp)

theorem writes_of_mem_line {text : String} (h : .line text ∈ pieces) (h' : StandsAlone name text) :
    Writes pieces name :=
  someLine_of_mem_line h (standsAlone_line h')

theorem opened_blank (before : String) :
    ∀ c ∈ (before ++ " ").toList.getLast?, c ∈ delimiters := by
  simp [delimiters]

/-- What stands alone in a line stands alone in the text. -/
theorem Writes.standsAlone_render (h : Writes pieces name) : StandsAlone name (render pieces) := by
  obtain ⟨line, hline, alone⟩ := h 0
  obtain ⟨earlier, later, lines⟩ := List.append_of_mem hline
  have text : render pieces = String.join (earlier.map (· ++ "\n")) ++ line ++
      ("\n" ++ String.join (later.map (· ++ "\n"))) := by
    simp only [render, lines, List.map_append, List.map_cons, String.join_append, String.join_cons,
      String.append_assoc]
  rw [text]
  refine alone.append _ _ (fun c hc => ?_) (fun c hc => ?_)
  · -- Before a line is the break of the line before, if there is one.
    obtain rfl | ⟨others, last, rfl⟩ := List.eq_nil_or_concat earlier
    · simp at hc
    · obtain rfl : '\n' = c := by simpa [String.join_append] using hc
      decide
  · obtain rfl : '\n' = c := by simpa using hc
    decide

/-- A group is left whole where blank lines are put between groups. -/
theorem subset_separate {group : List Layout} {groups : List (List Layout)} (h : group ∈ groups) :
    group ⊆ separate groups := by
  by_cases empty : group = []
  · simp [empty]
  · have kept : group ∈ groups.filter (!·.isEmpty) := List.mem_filter.mpr ⟨h, by simp [empty]⟩
    unfold separate
    generalize groups.filter (!·.isEmpty) = shown at kept
    induction shown with
    | nil => cases kept
    | cons first others ih =>
      by_cases last : others = []
      · subst last
        simp_all
      · rw [List.intercalate_cons_of_ne_nil last]
        obtain rfl | kept := List.mem_cons.mp kept
        · simp
        · exact List.subset_append_of_subset_right _ (ih kept)

end Layout

/-! ## Names of members -/

/-- The box that a value is read from, if it is read from one. -/
def BuildValue.box? : BuildValue → Option String
  | .boxed field _ => some field
  | .mocked _ | .untracked _ => none

/-- The names that a field is declared with on behalf of a member. -/
def GeneratedField.writtenNames : GeneratedField → List String
  | .fixture => []
  | .backing tracked => [tracked.fieldName]

/-- The names made from those of members that a declaration writes on their own. What a format makes
of the field of a mock is not among them. -/
def GeneratedMember.writtenNames (config : Configuration) : GeneratedMember → List String
  | .constructor initial _ => initial.map (·.1.fieldName)
  | .setter tracked => [tracked.setterName config, tracked.fieldName]
  | .addTo tracked _ => [tracked.addToName, tracked.fieldName]
  | .build method =>
    method.initializers.map (·.property) ++ method.values.filterMap BuildValue.box? ++
      (method.unreachable.filter (!·.mockable)).map (·.fieldName)
  | .buildDefault parameters => parameters.map (escapeIdentifier ·.name)
  | _ => []

/-- The names made from those of members that the text of a class writes on their own. -/
def GeneratedClass.writtenNames (c : GeneratedClass) : List String :=
  c.fields.flatMap GeneratedField.writtenNames ++
    c.members.flatMap (GeneratedMember.writtenNames c.config)

theorem GeneratedField.writes_layout (config : Configuration) {field : GeneratedField} {name : String}
    (h : name ∈ field.writtenNames) : Layout.Writes [field.layout config] name := by
  cases field with
  | fixture => cases h
  | backing tracked =>
    obtain rfl := List.mem_singleton.mp h
    refine Layout.writes_of_mem_line List.mem_cons_self
      ⟨"private " ++ tracked.fieldType config ++ " ",
        tracked.defaultField.elim "" (fun field => " = " ++ newBox tracked.type field) ++ ";",
        by simp only [String.append_assoc], Layout.opened_blank _, ?_⟩
    cases tracked.defaultField <;> simp [delimiters]

namespace GeneratedMember

open Layout (Writes writes_of_mem_line opened_blank someLine_of_mem_block)

variable {c : GeneratedClass} {name : String} {tracked : TrackedMember} {config : Configuration}

/-- An assignment of a field. -/
theorem writes_of_assigns {pieces : List Layout} {value : String}
    (h : .line (name ++ " = " ++ value ++ ";") ∈ pieces) : Writes pieces name :=
  writes_of_mem_line h
    ⟨"", " = " ++ value ++ ";", by simp [String.append_assoc], by simp, by simp [delimiters]⟩

theorem writes_constructor {initial : List (TrackedMember × InitialValue)} {setup : Option String}
    (h : name ∈ initial.map (·.1.fieldName)) : Writes (layout c (.constructor initial setup)) name := by
  obtain ⟨⟨tracked, value⟩, hinitial, rfl⟩ := List.mem_map.mp h
  refine someLine_of_mem_block "" (List.mem_cons_of_mem _ List.mem_cons_self) ?_
  exact writes_of_assigns (List.mem_append_left _ (List.mem_append_left _
    (List.mem_map_of_mem hinitial)))

theorem writes_setter {type : String}
    (h : name ∈ [tracked.setterName config, tracked.fieldName]) :
    Writes (setterLayout type config tracked) name := by
  unfold setterLayout
  simp only [List.mem_cons, List.not_mem_nil, or_false] at h
  split <;> obtain rfl | rfl := h
  · exact writes_of_mem_line List.mem_cons_self
      ⟨"public " ++ type ++ " ", "(System.Action<" ++ tracked.fieldType config ++ "> setup)",
        by simp only [String.append_assoc], opened_blank _, by simp [delimiters]⟩
  · refine someLine_of_mem_block "" (List.mem_cons_of_mem _ List.mem_cons_self) ?_
    exact writes_of_mem_line List.mem_cons_self ⟨"setup(", ");", rfl, by simp [delimiters], by simp [delimiters]⟩
  · exact writes_of_mem_line List.mem_cons_self
      ⟨"public " ++ type ++ " ", "(" ++ tracked.type.display ++ " value)",
        by simp only [String.append_assoc], opened_blank _, by simp [delimiters]⟩
  · refine someLine_of_mem_block "" (List.mem_cons_of_mem _ List.mem_cons_self) ?_
    exact writes_of_assigns List.mem_cons_self

theorem writes_addTo {collection : Collection}
    (h : name ∈ [tracked.addToName, tracked.fieldName]) :
    Writes (layout c (.addTo tracked collection)) name := by
  simp only [List.mem_cons, List.not_mem_nil, or_false] at h
  obtain rfl | rfl := h
  · exact writes_of_mem_line List.mem_cons_self
      ⟨"public " ++ c.builderType ++ " ",
        "(params " ++ (TypeRef.arrayOf collection.itemType).display ++ " items)",
        by simp only [String.append_assoc], opened_blank _, by simp [delimiters]⟩
  · refine someLine_of_mem_block "" (List.mem_cons_of_mem _ List.mem_cons_self) ?_
    cases collection with
    | array element => exact writes_of_assigns (List.mem_of_getElem? (i := 1) rfl)
    | _ => exact writes_of_assigns (List.mem_of_getElem? (i := 5) rfl)

/-- A value that is read from a box begins with the field. -/
theorem exists_text_eq_of_box? (config : Configuration) {value : BuildValue}
    (boxed : value.box? = some name) : ∃ rest, value.text config = name ++ ".HasValue" ++ rest := by
  cases value with
  | boxed field type =>
    obtain rfl := Option.some.inj boxed
    refine ⟨" ? " ++ field ++ ".Value.Object : " ++ defaultText config type, ?_⟩
    have test : ".HasValue ? " = ".HasValue" ++ " ? " := rfl
    simp only [BuildValue.text, test, String.append_assoc]
  | mocked | untracked => cases boxed

section Body

variable {entityType : String} {method : BuildMethod}

theorem writes_buildBody_of_target {initializer : Initializer} (h : initializer ∈ method.initializers) :
    Writes (buildBody entityType config method) initializer.property :=
  someLine_buildBody_of_initializer h (Layout.standsAlone_line
    ⟨"", " = " ++ initializer.value.text config ++ ",", by simp [String.append_assoc], by simp,
      by simp [delimiters]⟩)

theorem writes_buildBody_of_boxed {value : BuildValue} (h : value ∈ method.values)
    (boxed : value.box? = some name) : Writes (buildBody entityType config method) name := by
  obtain ⟨rest, text⟩ := exists_text_eq_of_box? config boxed
  obtain h | h := List.mem_append.mp h
  · refine someLine_buildBody_of_call fun terminator =>
      (someLine_callLayout entityType terminator (List.mem_map_of_mem h)).imp ?_
    rintro _ ⟨depth, after, rfl⟩
    exact Layout.standsAlone_line ⟨"", ".HasValue" ++ rest ++ after,
      by simp [text, String.append_assoc], by simp, by simp [delimiters]⟩ depth
  · obtain ⟨initializer, hinitializer, rfl⟩ := List.mem_map.mp h
    exact someLine_buildBody_of_initializer hinitializer (Layout.standsAlone_line
      ⟨initializer.property ++ " = ", ".HasValue" ++ rest ++ ",",
        by simp only [text, String.append_assoc], by simp [delimiters], by simp [delimiters]⟩)

theorem writes_buildBody_of_unreachable (h : tracked ∈ method.unreachable)
    (boxed : tracked.mockable = false) :
    Writes (buildBody entityType config method) tracked.fieldName := by
  have tested : Writes (unreachableLayout config tracked) tracked.fieldName := by
    rw [unreachableLayout, if_neg (by simp [boxed])]
    exact writes_of_mem_line List.mem_cons_self
      ⟨"if (", ".HasValue)", rfl, by simp [delimiters], by simp [delimiters]⟩
  exact tested.mono fun _ hpiece =>
    List.mem_append_left _ (List.mem_append_right _ (List.mem_flatMap_of_mem h hpiece))

end Body

theorem writes_buildDefault {entityType : String} {parameters : List Member}
    (h : name ∈ parameters.map (escapeIdentifier ·.name)) :
    Writes (buildDefaultLayout entityType parameters) name := by
  obtain ⟨parameter, hparameter, rfl⟩ := List.mem_map.mp h
  obtain ⟨before, after, split⟩ := exists_intercalate_eq ", "
    (List.mem_map_of_mem (f := fun parameter : Member => parameter.type.display ++ " " ++
      escapeIdentifier parameter.name ++ " = default(" ++ parameter.type.display ++ ")") hparameter)
  refine writes_of_mem_line List.mem_cons_self
    ⟨"public static " ++ entityType ++ " " ++ names.buildDefault ++ "(" ++ before ++
        parameter.type.display ++ " ",
      " = default(" ++ parameter.type.display ++ ")" ++ after ++ ")", ?_, opened_blank _,
      by simp [delimiters]⟩
  rw [split]
  simp only [String.append_assoc]

/-- A declaration writes the names of members where they stand alone. -/
theorem writes_layout (c : GeneratedClass) {member : GeneratedMember} {name : String}
    (h : name ∈ member.writtenNames c.config) : Writes (member.layout c) name := by
  cases member with
  | constructor initial setup => exact writes_constructor h
  | setter tracked => exact writes_setter h
  | addTo tracked collection => exact writes_addTo h
  | build method =>
    refine someLine_of_mem_block "" (List.mem_cons_of_mem _ List.mem_cons_self) ?_
    simp only [writtenNames, List.mem_append, List.mem_map, List.mem_filterMap, List.mem_filter,
      Bool.not_eq_true'] at h
    obtain (⟨initializer, hinitializer, rfl⟩ | ⟨value, hvalue, boxed⟩) | ⟨tracked, ⟨h, boxed⟩, rfl⟩ := h
    · exact writes_buildBody_of_target hinitializer
    · exact writes_buildBody_of_boxed hvalue boxed
    · exact writes_buildBody_of_unreachable h boxed
  | buildDefault parameters => exact writes_buildDefault h
  | _ => cases h

end GeneratedMember

namespace GeneratedClass

open Layout (Writes someLine_of_mem_block)

theorem writes_of_mem_writtenNames (c : GeneratedClass) {name : String} (h : name ∈ c.writtenNames) :
    Writes c.layout name := by
  have inClass : Writes c.classLayout name := by
    refine someLine_of_mem_block "" (List.mem_of_getElem? (i := 2) rfl) ?_
    simp only [writtenNames, List.mem_append, List.mem_flatMap] at h
    obtain ⟨field, hfield, h⟩ | ⟨member, hmember, h⟩ := h
    · exact (field.writes_layout c.config h).mono (List.cons_subset.mpr
        ⟨Layout.subset_separate List.mem_cons_self (List.mem_map_of_mem hfield), List.nil_subset _⟩)
    · exact (GeneratedMember.writes_layout c h).mono
        (Layout.subset_separate (List.mem_cons_of_mem _ (List.mem_map_of_mem hmember)))
  have inNamespace : Writes (if c.qualifier.isEmpty then c.classLayout
      else [.line ("namespace " ++ c.qualifier), .block c.classLayout ""]) name := by
    split
    · exact inClass
    · exact someLine_of_mem_block "" (List.mem_of_getElem? (i := 1) rfl) inClass
  exact inNamespace.mono fun _ hpiece => List.mem_append_left _ (List.mem_append_right _ hpiece)

/-- The names that the text of a class writes on behalf of members stand alone in it. -/
theorem standsAlone_sourceText (c : GeneratedClass) {name : String} (h : name ∈ c.writtenNames) :
    StandsAlone name c.sourceText :=
  (c.writes_of_mem_writtenNames h).standsAlone_render

end GeneratedClass

end FluentGen
