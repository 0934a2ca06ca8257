import FluentGen.Proofs.Capitals
import FluentGen.Proofs.DistinctTexts
import FluentGen.Proofs.Imports
import FluentGen.Proofs.Spacing
/-!
# Names without line breaks

A generated class has the line breaks of the names and options that it is made from, and no others: case
mapping, filling of templates and substitution of type arguments put none in.

## Main definitions
* `TypeRef.Unbroken`, `Entity.Unbroken`, `Configuration.Unbroken`, `NamedType.Unbroken`: references,
  entities, options and builders without line breaks in their names and texts.
* `Compilation.ExtendsUnbroken`: programs that extend such references.

## Main statements
* `TypeRef.Unbroken.onOneLine_render`: the text of a reference.
* `Compilation.ExtendsUnbroken.interfaces`: the interfaces of a reference.
-/
namespace FluentGen

open Text (OnOneLine)

/-! ## Texts -/

namespace Text

/-- A long literal is on one line if its characters are, which evaluates faster than its text. -/
theorem onOneLine_ofList {chars : List Char} (h : '\n' ∉ chars) : OnOneLine (String.ofList chars) := by
  rwa [OnOneLine, String.toList_ofList]

theorem onOneLine_intercalate {separator : String} {texts : List String} (h : OnOneLine separator)
    (h' : ∀ text ∈ texts, OnOneLine text) : OnOneLine (separator.intercalate texts) := by
  induction texts with
  | nil => simp [OnOneLine]
  | cons first texts ih =>
    obtain ⟨start, others⟩ := List.forall_mem_cons.mp h'
    cases texts with
    | nil => simpa using start
    | cons second texts =>
      rw [String.intercalate_cons_cons, onOneLine_append, onOneLine_append]
      exact ⟨⟨start, h⟩, ih others⟩

theorem onOneLine_trim {text : String} (h : OnOneLine text) : OnOneLine (trim text) :=
  mt mem_of_mem_trim h

theorem mem_of_placeholder? {arguments : List String} {text : List Char} {found : String × List Char}
    (h : placeholder? arguments text = some found) : found.1 ∈ arguments ∧ found.2 ⊆ text := by
  unfold placeholder? at h
  split at h
  · cases h
  next after split =>
    obtain ⟨index, -, h⟩ := Option.bind_eq_some_iff.mp h
    obtain ⟨argument, given, rfl⟩ := Option.map_eq_some_iff.mp h
    have rest := (List.dropWhile_sublist (· != '}') (l := text)).subset
    rw [split] at rest
    exact ⟨List.mem_of_getElem? given, List.subset_of_cons_subset rest⟩

/-- A template is filled with what is in it and in the arguments. -/
theorem mem_or_exists_of_mem_expandChars {arguments : List String} {text : List Char} {c : Char}
    (h : c ∈ expandChars arguments text) : c ∈ text ∨ ∃ argument ∈ arguments, c ∈ argument.toList := by
  fun_induction expandChars arguments text with
  | case1 => cases h
  | case2 rest ih => grind
  | case3 rest ih => grind
  | case4 rest _ found here ih =>
    obtain ⟨given, rest⟩ := mem_of_placeholder? here
    obtain argument | after := List.mem_append.mp h
    · exact .inr ⟨found.1, given, argument⟩
    · exact (ih after).imp_left fun inside => List.mem_cons_of_mem _ (rest inside)
  | case5 => grind
  | case6 => grind

theorem onOneLine_expand {template : String} {arguments : List String} (h : OnOneLine template)
    (h' : ∀ argument ∈ arguments, OnOneLine argument) : OnOneLine (expand template arguments) := by
  rw [OnOneLine, expand, String.toList_ofList]
  intro inside
  obtain own | ⟨argument, given, inside⟩ := mem_or_exists_of_mem_expandChars inside
  · exact h own
  · exact h' argument given inside

theorem lineBreak_notMem_mapByTables {longer : List (Nat × List Nat)} {runs : List CaseRun}
    (entries : ∀ entry ∈ longer, ∀ code ∈ entry.2, Char.ofNat code ≠ '\n')
    (valid : ∀ run ∈ runs, run.IsValid) (outside : ∀ run ∈ runs, run.isOutside 10 10 = true)
    {c : Char} (h : c ≠ '\n') : '\n' ∉ mapByTables longer runs c := by
  unfold mapByTables
  cases listed : longer.lookup c.toNat with
  | some codes =>
    obtain ⟨before, after, table, -⟩ := List.lookup_eq_some_iff.mp listed
    have entry := entries (c.toNat, codes) (by simp [table])
    simpa using entry
  | none =>
    rw [List.mem_singleton, mapByRuns]
    cases found : runs.find? (·.contains c.toNat) with
    | none => exact h.symm
    | some run =>
      have hrun := List.mem_of_find?_eq_some found
      have inside := List.find?_some found
      have moved := CaseRun.toNat_ofNat_of_contains (valid run hrun) inside
      have missed := CaseRun.isOutside_iff.mp (outside run hrun)
      obtain ⟨⟨first, last⟩, -⟩ := CaseRun.contains_iff.mp inside
      simp only [CaseRun.image] at missed
      intro same
      dsimp only at same
      rw [← same] at moved
      have code : '\n'.toNat = 10 := rfl
      omega

theorem lineBreak_notMem_upperCase {c : Char} (h : c ≠ '\n') : '\n' ∉ upperCase c :=
  lineBreak_notMem_mapByTables (by decide +kernel) isValid_of_mem_upperRuns (by decide +kernel) h

theorem lineBreak_notMem_lowerCase {c : Char} (h : c ≠ '\n') : '\n' ∉ lowerCase c :=
  lineBreak_notMem_mapByTables (by decide +kernel) (by decide +kernel) (by decide +kernel) h

end Text

theorem onOneLine_mapFirst {f : Char → List Char} (h : ∀ c, c ≠ '\n' → '\n' ∉ f c) {name : String}
    (unbroken : OnOneLine name) : OnOneLine (mapFirst f name) := by
  unfold mapFirst
  split
  next => decide
  next first others same =>
    rw [OnOneLine, same, List.mem_cons, not_or] at unbroken
    rw [OnOneLine, String.toList_ofList, List.mem_append, not_or]
    exact ⟨h first (Ne.symm unbroken.1), unbroken.2⟩

theorem onOneLine_pascalCase {name : String} (h : OnOneLine name) : OnOneLine (pascalCase name) :=
  onOneLine_mapFirst (fun _ => Text.lineBreak_notMem_upperCase) h

theorem onOneLine_backingFieldName {name : String} (h : OnOneLine name) :
    OnOneLine (backingFieldName name) :=
  Text.onOneLine_append.mpr
    ⟨by decide, onOneLine_mapFirst (fun _ => Text.lineBreak_notMem_lowerCase) (onOneLine_pascalCase h)⟩

theorem onOneLine_escapeIdentifier {name : String} (h : OnOneLine name) :
    OnOneLine (escapeIdentifier name) := by
  unfold escapeIdentifier
  split
  · exact Text.onOneLine_append.mpr ⟨by decide, h⟩
  · exact h

/-! ## References -/

namespace TypeRef

/-- Whether no name or namespace in a reference has a line break. -/
def Unbroken : TypeRef → Prop :=
  Everywhere fun part => OnOneLine part.name ∧ ∀ qualifier ∈ part.qualifier, OnOneLine qualifier

instance (type : TypeRef) : Decidable type.Unbroken :=
  inferInstanceAs (Decidable (Everywhere _ type))

namespace Unbroken

variable {type : TypeRef}

theorem onOneLine_mark (nullable : Bool) : OnOneLine (if nullable then "?" else "") := by
  cases nullable <;> decide

mutual
theorem onOneLine_render (style : NameStyle) : ∀ {type : TypeRef}, type.Unbroken →
    OnOneLine (type.render style)
  | ⟨name, qualifier, kind, [], nullable⟩, h => by
    have ⟨⟨plain, qualified⟩, _⟩ := everywhere_iff.mp h
    have mark := onOneLine_mark nullable
    cases style <;> cases qualifier <;> cases kind <;> simp_all +decide [render]
  | ⟨name, qualifier, kind, first :: others, nullable⟩, h => by
    have ⟨⟨plain, qualified⟩, inner⟩ := everywhere_iff.mp h
    have ⟨first', others'⟩ := List.forall_mem_cons.mp inner
    have head := onOneLine_render style first'
    have tail := onOneLine_renderOthers style others'
    have mark := onOneLine_mark nullable
    cases style <;> cases qualifier <;> cases kind <;> simp_all +decide [render]
theorem onOneLine_renderOthers (style : NameStyle) : ∀ {types : List TypeRef},
    (∀ type ∈ types, type.Unbroken) → OnOneLine (renderOthers style types)
  | [], _ => by simp [renderOthers, OnOneLine]
  | type :: types, h => by
    obtain ⟨first, others⟩ := List.forall_mem_cons.mp h
    simp +decide [renderOthers, onOneLine_render style first, onOneLine_renderOthers style others]
end

theorem onOneLine_display (h : type.Unbroken) : OnOneLine type.display :=
  h.onOneLine_render .full

theorem withNullable (h : type.Unbroken) (nullable : Bool) :
    ({ type with nullable } : TypeRef).Unbroken :=
  Everywhere.withNullable h (fun _ _ same => same) nullable

theorem generic {qualifier name : String} (kind : TypeKind) {arguments : List TypeRef}
    (h : OnOneLine qualifier) (h' : OnOneLine name) (inner : ∀ argument ∈ arguments, argument.Unbroken) :
    (TypeRef.generic qualifier name kind arguments).Unbroken := by
  refine everywhere_iff.mpr ⟨⟨h', fun qualifier hqualifier => ?_⟩, inner⟩
  obtain ⟨-, same⟩ := Option.ite_none_left_eq_some.mp hqualifier
  exact Option.some.inj same ▸ h

theorem arrayOf (h : type.Unbroken) : (TypeRef.arrayOf type).Unbroken :=
  everywhere_iff.mpr ⟨⟨(by decide : OnOneLine ""), nofun⟩, List.forall_mem_singleton.mpr h⟩

theorem substitute {bindings : Bindings} (h : type.Unbroken)
    (bound : ∀ name type, bindings.lookup name = some type → type.Unbroken) :
    (type.substitute bindings).Unbroken := by
  induction type using induction_arguments with
  | step type ih =>
    obtain ⟨here, onArguments⟩ := everywhere_iff.mp h
    by_cases parameter : type.kind = .typeParameter
    · rw [substitute_of_eq parameter]
      cases found : bindings.lookup type.name with
      | none => exact h
      | some replaced => exact (bound _ _ found).withNullable _
    · rw [substitute_of_ne parameter]
      exact everywhere_iff.mpr ⟨here, List.forall_mem_map.mpr fun argument hargument =>
        ih argument hargument (onArguments argument hargument)⟩

end Unbroken

end TypeRef

namespace Compilation

/-- Whether all that is declared extends references without line breaks. -/
def ExtendsUnbroken (model : Compilation) : Prop :=
  ∀ declaration ∈ model.types, ∀ r ∈ declaration.extended, r.Unbroken

instance (model : Compilation) : Decidable model.ExtendsUnbroken :=
  inferInstanceAs (Decidable (∀ declaration ∈ model.types, ∀ r ∈ declaration.extended, _))

namespace ExtendsUnbroken

variable {model : Compilation} {type : TypeRef}

theorem supertypes (h : model.ExtendsUnbroken) :
    ∀ r : TypeRef, r.Unbroken → ∀ s ∈ model.supertypes r, s.Unbroken := by
  intro r unbroken s hs
  rw [Compilation.supertypes] at hs
  cases found : model.lookup? r with
  | none => simp [found] at hs
  | some declaration =>
    have known : ∀ definition ∈ Framework.definitions, ∀ r ∈ definition.extended, r.Unbroken := by
      decide +kernel
    rw [found] at hs
    obtain ⟨extended, hextended, rfl⟩ := List.mem_map.mp hs
    have written : extended.Unbroken :=
      (List.mem_append.mp (mem_of_lookup? found)).elim (h declaration · extended hextended)
        (known declaration · extended hextended)
    exact written.substitute fun name bound lookup =>
      (TypeRef.everywhere_iff.mp unbroken).2 bound (NamedType.mem_arguments_of_lookup lookup)

theorem interfaces (h : model.ExtendsUnbroken) (unbroken : type.Unbroken) :
    ∀ r ∈ model.interfaces type, r.Unbroken :=
  forall_mem_interfaces h.supertypes unbroken

end ExtendsUnbroken

end Compilation

/-! ## Collections -/

/-- The types that a collection is made of. -/
def Collection.types : Collection → List TypeRef
  | .interfaceSequence element _ | .concreteSequence element | .array element => [element]
  | .interfaceMap key value | .concreteMap key value => [key, value]

/-- A collection is made of arguments of the type or of one of the interfaces that decide. -/
theorem Compilation.mem_types_of_collectionOf? {model : Compilation} {type : TypeRef}
    {interfaces : List TypeRef} {collection : Collection}
    (h : model.collectionOf? type interfaces = some collection) :
    ∀ part ∈ collection.types, ∃ whole ∈ type :: interfaces, part ∈ whole.arguments := by
  unfold collectionOf? at h
  split at h
  next element found =>
    cases h
    have head := (Option.ite_none_right_eq_some.mp found).2
    exact List.forall_mem_singleton.mpr ⟨type, List.mem_cons_self, List.mem_of_head? head⟩
  next =>
    have h := (Option.ite_none_left_eq_some.mp h).2
    split at h
    next map found =>
      have hmap := List.mem_cons_of_mem type (List.mem_of_find?_eq_some found)
      split at h
      next key value arguments =>
        have parts : ∀ part ∈ [key, value], ∃ whole ∈ type :: interfaces, part ∈ whole.arguments :=
          fun part hpart => ⟨map, hmap, arguments ▸ hpart⟩
        split at h
        · cases h
          exact parts
        · cases (Option.ite_none_right_eq_some.mp h).2
          exact parts
      next => cases h
    next =>
      obtain ⟨sequence, found, h⟩ := Option.bind_eq_some_iff.mp h
      obtain ⟨element, head, h⟩ := Option.bind_eq_some_iff.mp h
      have hsequence := List.mem_cons_of_mem type (List.mem_of_find?_eq_some found)
      have parts : ∀ part ∈ [element], ∃ whole ∈ type :: interfaces, part ∈ whole.arguments :=
        List.forall_mem_singleton.mpr ⟨sequence, hsequence, List.mem_of_head? head⟩
      split at h
      · cases h
        exact parts
      · cases (Option.ite_none_right_eq_some.mp h).2
        exact parts

namespace Collection

variable {collection : Collection}

/-- Whether no type that a collection is made of has a line break. -/
def Unbroken (collection : Collection) : Prop :=
  ∀ type ∈ collection.types, type.Unbroken

theorem Unbroken.itemType (h : collection.Unbroken) : collection.itemType.Unbroken := by
  cases collection with
  | interfaceSequence | concreteSequence | array => exact List.forall_mem_singleton.mp h
  | interfaceMap | concreteMap => exact .generic _ (by decide) (by decide) h

theorem Unbroken.backingType (h : collection.Unbroken) {declared : TypeRef} (h' : declared.Unbroken) :
    (collection.backingType declared).Unbroken := by
  cases collection with
  | interfaceSequence element setLike => cases setLike <;> exact .generic _ (by decide) (by decide) h
  | array element => exact .arrayOf (List.forall_mem_singleton.mp h)
  | interfaceMap key value => exact .generic _ (by decide) (by decide) h
  | concreteSequence | concreteMap => exact h'.withNullable false

end Collection

theorem Compilation.ExtendsUnbroken.collection {model : Compilation} (h : model.ExtendsUnbroken)
    {config : Configuration} {type : TypeRef} (unbroken : type.Unbroken) :
    ∀ collection ∈ (classify model config type).collection, collection.Unbroken := by
  intro collection found part hpart
  have bare : type.bare.Unbroken := unbroken.withNullable false
  have deciding : ∀ r ∈ model.decidingInterfaces type.bare, r.Unbroken := by
    unfold Compilation.decidingInterfaces
    split
    · exact nofun
    · exact h.interfaces bare
  obtain ⟨whole, hwhole, inside⟩ := Compilation.mem_types_of_collectionOf? found part hpart
  exact (TypeRef.everywhere_iff.mp (List.forall_mem_cons.mpr ⟨bare, deciding⟩ whole hwhole)).2 part
    inside

/-! ## Entities, options and builders -/

/-- Whether no name of a member or in its type has a line break. -/
@[mk_iff]
structure Member.Unbroken (member : Member) : Prop where
  name : OnOneLine member.name
  type : member.type.Unbroken

instance (member : Member) : Decidable member.Unbroken :=
  decidable_of_iff' _ (Member.unbroken_iff member)

/-- Whether no name in an entity has a line break. -/
@[mk_iff]
structure Entity.Unbroken (entity : Entity) : Prop where
  qualifier : OnOneLine entity.qualifier
  type : entity.type.Unbroken
  openParameters : ∀ parameter ∈ entity.openParameters,
    OnOneLine parameter.name ∧ ∀ type ∈ parameter.constraintTypes, type.Unbroken
  members : ∀ member ∈ entity.parameters ++ entity.settableProperties ++ entity.readOnlyProperties,
    member.Unbroken

instance (entity : Entity) : Decidable entity.Unbroken :=
  decidable_of_iff' _ (Entity.unbroken_iff entity)

/-- Whether no text of an option has a line break. -/
@[mk_iff]
structure Configuration.Unbroken (config : Configuration) : Prop where
  methodPrefix : OnOneLine config.builder.methodPrefix
  factoryMethod : ∀ name ∈ config.builder.factoryMethod, OnOneLine name
  typeFormat : OnOneLine config.mocking.typeFormat
  valueFormat : OnOneLine config.mocking.valueFormat
  objectFormat : OnOneLine config.mocking.objectFormat
  typeName : OnOneLine config.fixture.typeName
  createFormat : OnOneLine config.fixture.createFormat
  constructorArguments : ∀ text ∈ config.fixture.constructorArguments, OnOneLine text
  setup : ∀ text ∈ config.fixture.setup, OnOneLine text
  namespaces : ∀ name ∈ config.mocking.namespaces ++ config.fixture.namespaces, OnOneLine name

instance (config : Configuration) : Decidable config.Unbroken :=
  decidable_of_iff' _ (Configuration.unbroken_iff config)

/-- Whether the name, the namespace and the names of fields of a builder have no line breaks. -/
@[mk_iff]
structure NamedType.Unbroken (builder : NamedType) : Prop where
  name : OnOneLine builder.name
  qualifier : OnOneLine builder.qualifier
  fields : ∀ field ∈ builder.fields, OnOneLine field.name

instance (builder : NamedType) : Decidable builder.Unbroken :=
  decidable_of_iff' _ (NamedType.unbroken_iff builder)

/-- Whether no name that a tracked member stands for has a line break. -/
structure TrackedMember.Unbroken (tracked : TrackedMember) : Prop where
  member : tracked.member.Unbroken
  collection : ∀ collection ∈ tracked.classification.collection, collection.Unbroken
  defaultField : ∀ field ∈ tracked.defaultField, OnOneLine field

theorem NamedType.Unbroken.defaultField {builder : NamedType} (h : builder.Unbroken)
    {pascalName : String} {field : Field} (found : builder.defaultField? pascalName = some field) :
    OnOneLine field.name := by
  have declared := List.mem_of_find?_eq_some (Option.filter_eq_some_iff.mp found).1
  exact h.fields field (List.mem_reverse.mp declared)

section Tracked

variable {model : Compilation} {entity : Entity} {config : Configuration} {builder : NamedType}

theorem Entity.Unbroken.candidates (h : entity.Unbroken) (unreachable : Bool) :
    ∀ member ∈ entity.candidates unreachable, member.Unbroken := by
  intro member hmember
  refine h.members member ?_
  obtain hmember | readOnly := List.mem_append.mp (mem_of_mem_distinctBy hmember)
  · have settable := (List.mem_append.mp hmember).imp_right List.mem_of_mem_filter
    exact List.mem_append_left _ (List.mem_append.mpr settable)
  · cases unreachable with
    | false => cases readOnly
    | true => exact List.mem_append_right _ (List.mem_of_mem_filter readOnly)

/-- Tracking puts in no line breaks. -/
theorem unbroken_of_mem_tracked (h : model.ExtendsUnbroken) (h' : entity.Unbroken)
    (h'' : builder.Unbroken) :
    ∀ tracked ∈ (planMembers model entity config builder).tracked, tracked.Unbroken := by
  intro tracked htracked
  obtain ⟨candidate, planned⟩ := mem_tracked_iff.mp htracked
  have member := h'.candidates _ tracked.member candidate
  refine ⟨member, ?_, ?_⟩
  · rw [planned.classification]
    exact h.collection member.type
  · intro name hname
    rw [planned.defaultField] at hname
    obtain ⟨field, found, rfl⟩ := Option.map_eq_some_iff.mp (Option.ite_none_right_eq_some.mp hname).2
    exact h''.defaultField found

end Tracked

end FluentGen
