import FluentGen.Proofs.JsonParts
import FluentGen.Proofs.JsonText
import FluentGen.Proofs.RecordReading
import FluentGen.Proofs.TypeParts
import FluentGen.Snapshot.Writer
/-!
# Snapshots are read back

A snapshot is printed and read field by field. For each record there is one lemma that its document
is read as the record it was printed from, with every field found under its key or left out because
it has its default; a reference goes by induction over its arguments. The document of a snapshot
only holds what a text can spell, and so its text is read as that document.

## Main definitions
* `Reads`: a document is read as a value.
* `Prints`: the fields of a record are those it was printed with.

## Main statements
* `reads_record`: a record is read once its fields are.
* `reads_typeRefWithin`: the levels of nesting always cover the references nested in a reference.
* `Compilation.ofText_toText`: the text of a snapshot is read back as that snapshot.
-/
namespace FluentGen

namespace Snapshot

variable {α β : Type}

/-- A document whose containers fit is read as `a`. -/
def Reads (depth : Nat) (decode : Decoder α) (document : Json) (a : α) : Prop :=
  document.nesting ≤ depth → decode depth document = .ok a

/-! ## Plain values -/

section Plain

variable {depth : Nat} {decode : Decoder α} {encode : α → Json}

theorem reads_text (value : String) : Reads depth text (.text value) value :=
  fun _ => rfl

theorem reads_flag (value : Bool) : Reads depth flag (.bool value) value :=
  fun _ => rfl

theorem reads_typeKind (kind : TypeKind) : Reads depth typeKind (.text kind.label) kind := by
  intro _
  cases kind <;> rfl

theorem reads_accessibility (accessibility : Accessibility) :
    Reads depth Snapshot.accessibility accessibility.toJson accessibility := by
  intro _
  cases accessibility <;> rfl

theorem integer?_ofInt_natCast {n : Nat} (h : n < UInt64.size) :
    (JsonNumber.ofInt n).integer? = some (n : Int) := by
  have sign : ¬(n : Int) < 0 := by omega
  simp [JsonNumber.ofInt, JsonNumber.integer?, sign, h]

theorem reads_word (value : UInt32) : Reads depth word (.int value.toNat) value := by
  intro _
  have small : value.toNat < UInt32.size := value.toNat_lt
  have integer : (JsonNumber.ofInt value.toNat).integer? = some (value.toNat : Int) :=
    integer?_ofInt_natCast (small.trans (by decide))
  simp only [word, Json.int, JsonNumber.value?, integer]
  simp [small]

theorem readItems_eq_ok {read : Json → Except ReadError α} {values : List α}
    (h : ∀ value ∈ values, read (encode value) = .ok value) :
    Snapshot.readItems read (values.map encode) = .ok values := by
  induction values with
  | nil => rfl
  | cons value values ih =>
    obtain ⟨first, others⟩ := List.forall_mem_cons.mp h
    exact readItems_cons_eq_ok_iff.mpr ⟨value, values, first, ih others, rfl⟩

theorem reads_list {values : List α}
    (h : ∀ value ∈ values, ∀ below < depth, Reads below decode (encode value) value) :
    Reads depth (listOf decode) (.list encode values) values := by
  intro fits
  obtain _ | depth := depth
  · simp [Json.list, Json.nesting] at fits
  · refine readItems_eq_ok fun value mem => h value mem depth (by omega) ?_
    exact Json.nesting_array_le_iff.mp fits _ (List.mem_map_of_mem mem)

theorem reads_option {value : Option α} (present : ∀ value, encode value ≠ .null)
    (h : ∀ value, Reads depth decode (encode value) value) :
    Reads depth (nullable decode) (.option encode value) value := by
  intro fits
  cases value with
  | none => rfl
  | some value => exact (nullable_eq_ok_iff (present value)).mpr ⟨value, h value fits, rfl⟩

end Plain

/-! ## Records -/

/-- The fields of a record that is printed with `members`, all of which fit. -/
structure Prints (fields : Fields) (members : List (String × Json)) : Prop where
  value? : ∀ key, fields.value? key = members.lookup key
  fits : ∀ member ∈ members, member.2.nesting ≤ fields.depth

section Record

variable {schema : Schema} {depth : Nat} {members : List (String × Json)} {key : String}
  {decode : Decoder α} {a : α}

theorem value?_keyed :
    Fields.value? ⟨schema, depth, .members (Json.keyed members)⟩ key = members.lookup key := by
  induction members with
  | nil => rfl
  | cons member members ih =>
    obtain ⟨name, value⟩ := member
    rw [Json.keyed, List.map_cons, value?_text_cons, ← Json.keyed, ih, List.lookup_cons]
    by_cases here : name = key
    · simp [here]
    · simp [here, beq_eq_false_iff_ne.mpr (Ne.symm here)]

theorem membersChecked_keyed {keys : List String}
    (names : (members.map (·.1)).Sublist keys) (distinct : keys.Nodup) :
    MembersChecked keys (Json.keyed members) := by
  refine ⟨fun member mem => ?_, ?_⟩
  · obtain ⟨⟨name, value⟩, here, rfl⟩ := List.mem_map.mp mem
    exact ⟨name, rfl, .inl (names.subset (List.mem_map_of_mem here))⟩
  · have apart := List.pairwise_map.mp (names.nodup distinct)
    refine List.pairwise_map.mpr (apart.imp fun apart key _ here there => apart ?_)
    exact (text_inj.mp here).trans (text_inj.mp there).symm

/-- A record is read once its fields are. -/
theorem reads_record {build : Fields → Ranked α} (names : (members.map (·.1)).Sublist schema.keys)
    (distinct : schema.keys.Nodup)
    (h : ∀ fields, Prints fields members → fields.depth < depth → build fields = .ok a) :
    Reads depth (record schema build) (.record members) a := by
  intro fits
  obtain _ | depth := depth
  · simp [Json.record, Json.nesting] at fits
  · refine record_object_eq_ok_iff.mpr ⟨membersChecked_keyed names distinct, ?_⟩
    refine h _ ⟨fun _ => value?_keyed, fun member mem => ?_⟩ (Nat.lt_succ_self depth)
    exact (Json.nesting_object_le_iff.mp fits _ (List.mem_map_of_mem mem)).2

namespace Prints

variable {fields : Fields} (prints : Prints fields members) {value : Json} {default : α}

include prints

theorem decode_eq (here : members.lookup key = some value)
    (reads : Reads fields.depth decode value a) : decode fields.depth value = .ok a := by
  obtain ⟨before, after, rfl, -⟩ := List.lookup_eq_some_iff.mp here
  exact reads (prints.fits (key, value) (by simp))

theorem required (here : members.lookup key = some value)
    (reads : Reads fields.depth decode value a) : fields.required key decode = .ok a :=
  Fields.required_eq_ok_iff.mpr ⟨value, (prints.value? key).trans here, prints.decode_eq here reads⟩

theorem optional (here : members.lookup key = some value)
    (reads : Reads fields.depth decode value a) : fields.optional key decode default = .ok a :=
  (Fields.optional_of_some ((prints.value? key).trans here)).mpr (prints.decode_eq here reads)

/-- A field is left out when it has its default. -/
theorem omitted (absent : members.lookup key = none) :
    fields.optional key decode default = .ok default :=
  Fields.optional_of_none ((prints.value? key).trans absent)

/-- A field is left out when it has no value. -/
theorem member? {decode : Decoder β} {encode : β → Json} {found : Option β}
    (here : members.lookup key = found.map encode) (present : ∀ value, encode value ≠ .null)
    (reads : ∀ value, Reads fields.depth decode (encode value) value) :
    fields.optional key (nullable decode) none = .ok found := by
  cases found with
  | none => exact prints.omitted here
  | some value =>
    have read : Reads fields.depth (nullable decode) (.option encode (some value)) (some value) :=
      reads_option present reads
    exact prints.optional here read

end Prints

end Record

/-! ## References to types -/

/-- The members of the object that a reference is printed as. -/
def typeRefMembers (type : TypeRef) : List (String × Json) :=
  [("name", .text type.name)] ++ Json.member? "namespace" Json.text type.qualifier ++
    [("kind", .text type.kind.label)] ++
    (if type.arguments.isEmpty then []
      else [("type_arguments", .list TypeRef.toJson type.arguments)]) ++
    (if type.nullable then [("nullable", .bool true)] else [])

theorem allToJson_eq_map (types : List TypeRef) :
    TypeRef.allToJson types = types.map TypeRef.toJson := by
  induction types with
  | nil => rfl
  | cons type types ih => rw [TypeRef.allToJson, ih, List.map_cons]

theorem toJson_typeRef (type : TypeRef) : type.toJson = .record (typeRefMembers type) := by
  obtain ⟨name, qualifier, kind, arguments, nullable⟩ := type
  cases arguments with
  | nil => simp [TypeRef.toJson, typeRefMembers]
  | cons first others => simp [TypeRef.toJson, typeRefMembers, Json.list, allToJson_eq_map]

theorem toJson_typeRef_ne_null (type : TypeRef) : type.toJson ≠ .null := by
  simp [toJson_typeRef, Json.record]

theorem names_typeRefMembers (type : TypeRef) :
    ((typeRefMembers type).map (·.1)).Sublist typeRefSchema.keys := by
  obtain ⟨name, qualifier, kind, arguments, nullable⟩ := type
  cases qualifier <;> cases arguments <;> cases nullable <;>
    simp [typeRefMembers, typeRefSchema, Json.member?]

/-- What a reference is printed with: strings, the documents of its arguments and a flag. -/
theorem forall_mem_typeRefMembers {P : Json → Prop} {type : TypeRef} (texts : ∀ s, P (.text s))
    (applied : P (.list TypeRef.toJson type.arguments)) (marked : P (.bool true)) :
    ∀ member ∈ typeRefMembers type, P member.2 := by
  obtain ⟨name, qualifier, kind, arguments, nullable⟩ := type
  cases qualifier <;> cases arguments <;> cases nullable <;>
    simp_all [typeRefMembers, Json.member?]

/-- A reference is read at any number of levels that covers the containers left to nest. -/
theorem reads_typeRefWithin (type : TypeRef) :
    ∀ {levels depth : Nat}, depth < levels →
      Reads depth (typeRefWithin levels) type.toJson type := by
  induction type using TypeRef.induction_arguments with
  | step type ih =>
    intro levels depth enough
    obtain ⟨levels, rfl⟩ : ∃ n, levels = n + 1 := ⟨levels - 1, by omega⟩
    rw [toJson_typeRef]
    refine reads_record (names_typeRefMembers type) (by decide) fun fields prints lower => ?_
    obtain ⟨name, qualifier, kind, arguments, nullable⟩ := type
    have h₁ : fields.required "name" text = .ok name := prints.required rfl (reads_text name)
    have h₂ : fields.optional "namespace" (Snapshot.nullable text) none = .ok qualifier := by
      refine prints.member? ?_ (by simp [Json.text]) reads_text
      cases qualifier <;> cases arguments <;> cases nullable <;> rfl
    have h₃ : fields.optional "kind" typeKind .classType = .ok kind := by
      refine prints.optional ?_ (reads_typeKind kind)
      cases qualifier <;> rfl
    have h₄ : fields.optional "type_arguments" (listOf (typeRefWithin levels)) [] =
        .ok arguments := by
      cases arguments with
      | nil =>
        refine prints.omitted ?_
        cases qualifier <;> cases nullable <;> rfl
      | cons first others =>
        have listed : Reads fields.depth (listOf (typeRefWithin levels))
            (.list TypeRef.toJson (first :: others)) (first :: others) :=
          reads_list fun argument mem below small => ih argument mem (by omega)
        refine prints.optional ?_ listed
        cases qualifier <;> rfl
    have h₅ : fields.optional "nullable" flag false = .ok nullable := by
      cases nullable with
      | false =>
        refine prints.omitted ?_
        cases qualifier <;> cases arguments <;> rfl
      | true =>
        refine prints.optional ?_ (reads_flag true)
        cases qualifier <;> cases arguments <;> rfl
    rw [h₁, h₂, h₃, h₄, h₅]
    rfl

theorem reads_typeRef (type : TypeRef) (depth : Nat) : Reads depth typeRef type.toJson type :=
  reads_typeRefWithin type (Nat.lt_succ_self depth)

/-! ## Arguments of attributes -/

theorem isReadable_typeRef (type : TypeRef) :
    ∀ {depth : Nat}, type.toJson.nesting ≤ depth → type.toJson.isReadable depth := by
  induction type using TypeRef.induction_arguments with
  | step type ih =>
    intro depth fits
    rw [toJson_typeRef] at fits ⊢
    obtain _ | depth := depth
    · simp [Json.record, Json.nesting] at fits
    have readable : ∀ member ∈ typeRefMembers type,
        member.2.nesting ≤ depth → member.2.isReadable depth := by
      refine forall_mem_typeRefMembers
        (P := fun value => value.nesting ≤ depth → value.isReadable depth)
        (fun _ _ => rfl) (fun fits => ?_) (fun _ => rfl)
      obtain _ | depth := depth
      · simp [Json.list, Json.nesting] at fits
      · refine Json.isReadable_array_iff.mpr (List.forall_mem_map.mpr fun argument mem => ?_)
        exact ih argument mem (List.forall_mem_map.mp (Json.nesting_array_le_iff.mp fits) _ mem)
    refine Json.isReadable_object_iff.mpr (List.forall_mem_map.mpr fun member mem => ?_)
    have below := List.forall_mem_map.mp (Json.nesting_object_le_iff.mp fits) member mem
    exact ⟨rfl, rfl, readable member mem below.2⟩

theorem integer?_ofInt (n : Int64) : (JsonNumber.ofInt n.toInt).integer? = some n.toInt := by
  have lower := n.le_toInt
  have upper := n.toInt_lt
  by_cases negative : n.toInt < 0
  · have size : n.toInt.natAbs ≤ UInt64.size / 2 := by
      simp only [UInt64.size]
      omega
    have pos : 0 < n.toInt.natAbs := by omega
    have value : -(n.toInt.natAbs : Int) = n.toInt := by omega
    simp only [JsonNumber.integer?, JsonNumber.ofInt, negative, decide_true, pos, size, value,
      List.isEmpty_nil, Option.isNone_none, Bool.and_self, if_true]
  · have value : (n.toInt.toNat : Int) = n.toInt := by omega
    rw [← value]
    exact integer?_ofInt_natCast (by simp only [UInt64.size]; omega)

theorem reads_attributeValue (value : AttributeValue) (depth : Nat) :
    Reads depth attributeValue value.toJson value := by
  intro fits
  cases value with
  | flag value => rfl
  | number n =>
    have integer := integer?_ofInt n
    have small : n.toInt ≤ Int64.maxValue.toInt := n.toInt_le
    simp [attributeValue, AttributeValue.toJson, Json.int, Json.isReadable, JsonNumber.value?,
      integer, small]
  | text value => rfl
  | type value =>
    have readable : value.toJson.isReadable depth := isReadable_typeRef value fits
    have read := reads_typeRef value depth fits
    rw [toJson_typeRef] at readable read
    simp only [AttributeValue.toJson, toJson_typeRef, attributeValue, Json.record]
    rw [← Json.record, if_pos readable, read]

theorem toJson_attributeValue_ne_null (value : AttributeValue) : value.toJson ≠ .null := by
  cases value with
  | type value => exact toJson_typeRef_ne_null value
  | flag | number | text => simp [AttributeValue.toJson, Json.int, Json.text]

/-! ## Declarations -/

section Declarations

variable {depth : Nat}

theorem reads_location (location : Location) :
    Reads depth Snapshot.location location.toJson location := by
  refine reads_record (.refl _) (by decide) fun fields prints _ => ?_
  have h₁ : fields.required "file" text = .ok location.file := prints.required rfl (reads_text _)
  have h₂ : fields.required "line" word = .ok location.line := prints.required rfl (reads_word _)
  have h₃ : fields.required "column" word = .ok location.column :=
    prints.required rfl (reads_word _)
  rw [h₁, h₂, h₃]
  rfl

/-- The member of a location, the last of its record, is there when the location is. -/
theorem sublist_location (keys : List String) (location : Option Location) :
    (keys ++ (Json.member? "location" Location.toJson location).map (·.1)).Sublist
      (keys ++ ["location"]) := by
  cases location with
  | none => simp [Json.member?]
  | some location => exact .refl _

theorem Prints.location {fields : Fields} {members : List (String × Json)}
    {location : Option Location}
    (prints : Prints fields (members ++ Json.member? "location" Location.toJson location))
    (absent : members.lookup "location" = none) :
    fields.optional "location" (nullable Snapshot.location) none = .ok location := by
  refine prints.member? ?_ (by simp [Location.toJson, Json.record]) fun _ => reads_location _
  rw [List.lookup_append, absent]
  cases location <;> rfl

theorem reads_attribute (a : Attribute) : Reads depth attributeData a.toJson a := by
  refine reads_record (sublist_location ["name", "arguments"] a.location) (by decide)
    fun fields prints _ => ?_
  have h₁ : fields.required "name" text = .ok a.name := prints.required rfl (reads_text _)
  have h₂ : fields.optional "arguments" (listOf (nullable attributeValue)) [] =
      .ok a.arguments :=
    prints.optional rfl <| reads_list fun argument _ below _ =>
      reads_option toJson_attributeValue_ne_null fun value => reads_attributeValue value below
  have h₃ := prints.location rfl
  rw [h₁, h₂, h₃]
  rfl

theorem reads_typeParameter (parameter : TypeParameter) :
    Reads depth typeParameter parameter.toJson parameter := by
  refine reads_record (.refl _) (by decide) fun fields prints _ => ?_
  have h₁ : fields.required "name" text = .ok parameter.name := prints.required rfl (reads_text _)
  have h₂ : fields.optional "constraint_types" (listOf typeRef) [] =
      .ok parameter.constraintTypes :=
    prints.optional rfl (reads_list fun type _ below _ => reads_typeRef type below)
  have h₃ : fields.optional "reference_type" flag false = .ok parameter.referenceType :=
    prints.optional rfl (reads_flag _)
  have h₄ : fields.optional "value_type" flag false = .ok parameter.valueType :=
    prints.optional rfl (reads_flag _)
  have h₅ : fields.optional "constructor" flag false = .ok parameter.defaultConstructor :=
    prints.optional rfl (reads_flag _)
  rw [h₁, h₂, h₃, h₄, h₅]
  rfl

theorem reads_parameter (parameter : Parameter) :
    Reads depth Snapshot.parameter parameter.toJson parameter := by
  refine reads_record (.refl _) (by decide) fun fields prints _ => ?_
  have h₁ : fields.required "name" text = .ok parameter.name := prints.required rfl (reads_text _)
  have h₂ : fields.required "type" typeRef = .ok parameter.type :=
    prints.required rfl (reads_typeRef _ _)
  rw [h₁, h₂]
  rfl

theorem reads_constructor (constructor : Constructor) :
    Reads depth Snapshot.constructor constructor.toJson constructor := by
  refine reads_record (sublist_location ["accessibility", "parameters"] constructor.location)
    (by decide) fun fields prints _ => ?_
  have h₁ : fields.optional "accessibility" accessibility .privateAccess =
      .ok constructor.accessibility := prints.optional rfl (reads_accessibility _)
  have h₂ : fields.optional "parameters" (listOf parameter) [] = .ok constructor.parameters :=
    prints.optional rfl (reads_list fun parameter _ _ _ => reads_parameter parameter)
  have h₃ := prints.location rfl
  rw [h₁, h₂, h₃]
  rfl

theorem toJson_accessibility_ne_null (accessibility : Accessibility) :
    accessibility.toJson ≠ .null := by
  simp [Accessibility.toJson, Json.text]

theorem reads_property (property : Property) :
    Reads depth Snapshot.property property.toJson property := by
  refine reads_record (.refl _) (by decide) fun fields prints _ => ?_
  have h₁ : fields.required "name" text = .ok property.name := prints.required rfl (reads_text _)
  have h₂ : fields.required "type" typeRef = .ok property.type :=
    prints.required rfl (reads_typeRef _ _)
  have h₃ : fields.optional "getter" (nullable accessibility) none = .ok property.getter :=
    prints.optional rfl (reads_option toJson_accessibility_ne_null reads_accessibility)
  have h₄ : fields.optional "setter" (nullable accessibility) none = .ok property.setter :=
    prints.optional rfl (reads_option toJson_accessibility_ne_null reads_accessibility)
  have h₅ : fields.optional "is_static" flag false = .ok property.isStatic :=
    prints.optional rfl (reads_flag _)
  have h₆ : fields.optional "is_computed" flag false = .ok property.isComputed :=
    prints.optional rfl (reads_flag _)
  have h₇ : fields.optional "is_indexer" flag false = .ok property.isIndexer :=
    prints.optional rfl (reads_flag _)
  rw [h₁, h₂, h₃, h₄, h₅, h₆, h₇]
  rfl

theorem reads_field (field : Field) : Reads depth Snapshot.field field.toJson field := by
  refine reads_record (.refl _) (by decide) fun fields prints _ => ?_
  have h₁ : fields.required "name" text = .ok field.name := prints.required rfl (reads_text _)
  have h₂ : fields.required "type" typeRef = .ok field.type :=
    prints.required rfl (reads_typeRef _ _)
  have h₃ : fields.optional "is_const" flag false = .ok field.isConst :=
    prints.optional rfl (reads_flag _)
  have h₄ : fields.optional "is_static" flag false = .ok field.isStatic :=
    prints.optional rfl (reads_flag _)
  rw [h₁, h₂, h₃, h₄]
  rfl

theorem reads_method (method : Method) : Reads depth Snapshot.method method.toJson method := by
  refine reads_record (sublist_location ["name", "parameters", "is_static"] method.location)
    (by decide) fun fields prints _ => ?_
  have h₁ : fields.required "name" text = .ok method.name := prints.required rfl (reads_text _)
  have h₂ : fields.optional "parameters" (listOf parameter) [] = .ok method.parameters :=
    prints.optional rfl (reads_list fun parameter _ _ _ => reads_parameter parameter)
  have h₃ : fields.optional "is_static" flag false = .ok method.isStatic :=
    prints.optional rfl (reads_flag _)
  have h₄ := prints.location rfl
  rw [h₁, h₂, h₃, h₄]
  rfl

theorem reads_namedType (type : NamedType) : Reads depth namedType type.toJson type := by
  refine reads_record (sublist_location ["name", "namespace", "kind", "is_abstract",
    "type_parameters", "base_type", "interfaces", "constructors", "properties", "fields",
    "methods", "attributes"] type.location) (by decide) fun fields prints _ => ?_
  have h₁ : fields.required "name" text = .ok type.name := prints.required rfl (reads_text _)
  have h₂ : fields.optional "namespace" text "" = .ok type.qualifier :=
    prints.optional rfl (reads_text _)
  have h₃ : fields.optional "kind" typeKind .classType = .ok type.kind :=
    prints.optional rfl (reads_typeKind _)
  have h₄ : fields.optional "is_abstract" flag false = .ok type.isAbstract :=
    prints.optional rfl (reads_flag _)
  have h₅ : fields.optional "type_parameters" (listOf typeParameter) [] =
      .ok type.typeParameters :=
    prints.optional rfl (reads_list fun parameter _ _ _ => reads_typeParameter parameter)
  have h₆ : fields.optional "base_type" (nullable typeRef) none = .ok type.baseType :=
    prints.optional rfl
      (reads_option toJson_typeRef_ne_null fun base => reads_typeRef base _)
  have h₇ : fields.optional "interfaces" (listOf typeRef) [] = .ok type.interfaces :=
    prints.optional rfl (reads_list fun interface _ below _ => reads_typeRef interface below)
  have h₈ : fields.optional "constructors" (listOf constructor) [] = .ok type.constructors :=
    prints.optional rfl (reads_list fun constructor _ _ _ => reads_constructor constructor)
  have h₉ : fields.optional "properties" (listOf property) [] = .ok type.properties :=
    prints.optional rfl (reads_list fun property _ _ _ => reads_property property)
  have h₁₀ : fields.optional "fields" (listOf field) [] = .ok type.fields :=
    prints.optional rfl (reads_list fun field _ _ _ => reads_field field)
  have h₁₁ : fields.optional "methods" (listOf method) [] = .ok type.methods :=
    prints.optional rfl (reads_list fun method _ _ _ => reads_method method)
  have h₁₂ : fields.optional "attributes" (listOf attributeData) [] = .ok type.attributes :=
    prints.optional rfl (reads_list fun a _ _ _ => reads_attribute a)
  have h₁₃ := prints.location rfl
  rw [h₁, h₂, h₃, h₄, h₅, h₆, h₇, h₈, h₉, h₁₀, h₁₁, h₁₂, h₁₃]
  rfl

theorem reads_compilation (nullableEnabled : Bool) (assemblyAttributes : List Attribute)
    (types : List NamedType) :
    Reads depth compilation
      (Compilation.toJson { nullableEnabled, assemblyAttributes, types })
      { nullableEnabled, assemblyAttributes, types } := by
  refine reads_record (.refl _) (by decide) fun fields prints _ => ?_
  have h₁ : fields.optional "nullable_enabled" flag false = .ok nullableEnabled :=
    prints.optional rfl (reads_flag _)
  have h₂ : fields.optional "assembly_attributes" (listOf attributeData) [] =
      .ok assemblyAttributes :=
    prints.optional rfl (reads_list fun a _ _ _ => reads_attribute a)
  have h₃ : fields.optional "types" (listOf namedType) [] = .ok types :=
    prints.optional rfl (reads_list fun type _ _ _ => reads_namedType type)
  rw [h₁, h₂, h₃]
  rfl

end Declarations

/-! ## Printing -/

section Printing

open Json (IsPrintable)

variable {encode : α → Json}

theorem isPrintable_record {members : List (String × Json)}
    (h : ∀ member ∈ members, IsPrintable member.2) : IsPrintable (.record members) :=
  .object members h

theorem isPrintable_list (h : ∀ value, IsPrintable (encode value)) (values : List α) :
    IsPrintable (.list encode values) :=
  .array _ (List.forall_mem_map.mpr fun value _ => h value)

theorem isPrintable_option (h : ∀ value, IsPrintable (encode value)) (value : Option α) :
    IsPrintable (.option encode value) := by
  cases value with
  | none => exact .null
  | some value => exact h value

theorem isPrintable_int (n : Int) : IsPrintable (.int n) :=
  .number _ (by simp [JsonNumber.ofInt])

theorem isPrintable_member? (h : ∀ value, IsPrintable (encode value)) (key : String)
    (value : Option α) : ∀ member ∈ Json.member? key encode value, IsPrintable member.2 := by
  cases value <;> simp [Json.member?, h]

theorem isPrintable_typeRef (type : TypeRef) : IsPrintable type.toJson := by
  induction type using TypeRef.induction_arguments with
  | step type ih =>
    rw [toJson_typeRef]
    refine isPrintable_record (forall_mem_typeRefMembers .text (.array _ ?_) (.bool true))
    exact List.forall_mem_map.mpr ih

theorem isPrintable_location (location : Location) : IsPrintable location.toJson :=
  isPrintable_record (by simp [IsPrintable.text, isPrintable_int])

theorem isPrintable_attributeValue (value : AttributeValue) : IsPrintable value.toJson := by
  cases value with
  | flag value => exact .bool value
  | number value => exact isPrintable_int _
  | text value => exact .text value
  | type value => exact isPrintable_typeRef value

theorem isPrintable_attribute (a : Attribute) : IsPrintable a.toJson := by
  have arguments := isPrintable_list (isPrintable_option isPrintable_attributeValue) a.arguments
  have location := isPrintable_member? isPrintable_location "location" a.location
  exact isPrintable_record <|
    List.forall_mem_append.mpr ⟨by simp [IsPrintable.text, arguments], location⟩

theorem isPrintable_typeParameter (parameter : TypeParameter) : IsPrintable parameter.toJson := by
  have constraints := isPrintable_list isPrintable_typeRef parameter.constraintTypes
  exact isPrintable_record (by simp [IsPrintable.text, IsPrintable.bool, constraints])

theorem isPrintable_parameter (parameter : Parameter) : IsPrintable parameter.toJson :=
  isPrintable_record (by simp [IsPrintable.text, isPrintable_typeRef])

theorem isPrintable_constructor (constructor : Constructor) : IsPrintable constructor.toJson := by
  have parameters := isPrintable_list isPrintable_parameter constructor.parameters
  have location := isPrintable_member? isPrintable_location "location" constructor.location
  exact isPrintable_record <|
    List.forall_mem_append.mpr ⟨by simp [IsPrintable.text, parameters], location⟩

theorem isPrintable_accessibility (accessibility : Accessibility) :
    IsPrintable accessibility.toJson :=
  .text _

theorem isPrintable_property (property : Property) : IsPrintable property.toJson := by
  have accessor := isPrintable_option isPrintable_accessibility
  exact isPrintable_record
    (by simp [IsPrintable.text, IsPrintable.bool, isPrintable_typeRef, accessor])

theorem isPrintable_field (field : Field) : IsPrintable field.toJson :=
  isPrintable_record (by simp [IsPrintable.text, IsPrintable.bool, isPrintable_typeRef])

theorem isPrintable_method (method : Method) : IsPrintable method.toJson := by
  have parameters := isPrintable_list isPrintable_parameter method.parameters
  have location := isPrintable_member? isPrintable_location "location" method.location
  exact isPrintable_record <| List.forall_mem_append.mpr
    ⟨by simp [IsPrintable.text, IsPrintable.bool, parameters], location⟩

theorem isPrintable_namedType (type : NamedType) : IsPrintable type.toJson := by
  have base := isPrintable_option isPrintable_typeRef type.baseType
  have location := isPrintable_member? isPrintable_location "location" type.location
  refine isPrintable_record (List.forall_mem_append.mpr ⟨?_, location⟩)
  simp [IsPrintable.text, IsPrintable.bool, base, isPrintable_list, isPrintable_typeParameter,
    isPrintable_typeRef, isPrintable_constructor, isPrintable_property, isPrintable_field,
    isPrintable_method, isPrintable_attribute]

theorem isPrintable_compilation (model : Compilation) : IsPrintable model.toJson :=
  isPrintable_record
    (by simp [IsPrintable.bool, isPrintable_list, isPrintable_attribute, isPrintable_namedType])

end Printing

end Snapshot

namespace Compilation

open Snapshot

/-- **A snapshot survives being printed**: the text of every compilation whose document nests no
deeper than a reader follows is read back as that compilation, whatever its names and strings
are. -/
theorem ofText_toText (nullableEnabled : Bool) (assemblyAttributes : List Attribute)
    (types : List NamedType)
    (fits : (toJson { nullableEnabled, assemblyAttributes, types }).nesting ≤ nestingLimit) :
    ofText (toText { nullableEnabled, assemblyAttributes, types }) =
      .ok { nullableEnabled, assemblyAttributes, types } := by
  have read := reads_compilation nullableEnabled assemblyAttributes types fits
  rw [ofText, toText, Json.ofText_pretty (isPrintable_compilation _)]
  simp only [ofJson, read]
  rfl

/-- Quotes, escapes and control characters in names, both spellings of the global namespace,
annotations at two depths, every kind of argument and a location. -/
theorem ofText_toText_shapes :
    let element : TypeRef :=
      ⟨"T\u0301\"", none, .arrayType, [⟨"E", some "", .enumType, [], true⟩], true⟩
    let mark : Attribute :=
      { name := "Mark\\\x08\x0c\n\r\t\x01\x1f",
        arguments := [none, some (.flag true), some (.number (-9223372036854775808)),
          some (.text ""), some (.type element)],
        location := some ⟨"a.cs", 4294967295, 0⟩ }
    let type : NamedType := { name := "Order", attributes := [mark], baseType := some element }
    (toJson ⟨true, [mark], [type], 0x1000000000000⟩).nesting ≤ nestingLimit ∧
      ofText (toText ⟨true, [mark], [type], 0x1000000000000⟩) =
        .ok ⟨true, [mark], [type], 0x1000000000000⟩ := by
  intro element mark type
  have fits : (toJson ⟨true, [mark], [type], 0x1000000000000⟩).nesting ≤ nestingLimit := by
    decide +kernel
  exact ⟨fits, ofText_toText true [mark] [type] fits⟩

end Compilation

end FluentGen
