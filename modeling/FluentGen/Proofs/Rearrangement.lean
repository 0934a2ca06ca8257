import FluentGen.Proofs.SnapshotForm
import FluentGen.Proofs.SnapshotRoundTrip
import Mathlib.Logic.Relation
/-!
# Snapshots mean the same in any arrangement

A change to the document of a record shows in its fields: the value of one of them is changed, or a
field with its default is there before or after and not at the other time. A record of which every
field is read as before is read as before, which goes from locations and references up to the whole
snapshot. References among the arguments of an attribute are read from a document that was kept, so
for them a change also has to leave a document that can be kept.

## Main definitions
* `FieldStep`, `FieldsStep`: what a change does to the fields of a record.
* `Follows`: what is read is read again after every change.

## Main statements
* `follows_record`: a record is read after a change if its fields are.
* `follows_typeRefWithin`, `follows_attributeValue`: references, also as arguments.
* `Follows.run`: what is read is read again after any number of changes.
* `Compilation.ofText_of_steps`: only the content of a snapshot matters.
-/
namespace FluentGen

namespace Snapshot

variable {α β : Type}

/-! ## What a step does to a field -/

/-- How a step changes the value of a field. -/
inductive FieldStep (kind : RecordKind) (depth : Nat) (key : String) :
    Option Json → Option Json → Prop
  | same (found : Option Json) : FieldStep kind depth key found found
  | inside {value value' : Json}
    (step : Step skippable (kind.fieldForm key).form depth value value') :
    FieldStep kind depth key (some value) (some value')
  | filled {value : Json} (default : value ∈ (kind.fieldForm key).defaults)
    (fits : value.nesting ≤ depth) : FieldStep kind depth key none (some value)
  | cleared {value : Json} (default : value ∈ (kind.fieldForm key).defaults) :
    FieldStep kind depth key (some value) none

/-- The fields of a record before and after a step. -/
structure FieldsStep (kind : RecordKind) (fields fields' : Fields) : Prop where
  depth : fields'.depth = fields.depth
  value? : ∀ key ∈ kind.schema.keys,
    FieldStep kind fields.depth key (fields.value? key) (fields'.value? key)

/-- What is read is read again after every step. -/
def Follows (form : Form) (decode : Decoder α) : Prop :=
  ∀ depth value value', Step skippable form depth value value' →
    ∀ a, decode depth value = .ok a → decode depth value' = .ok a

/-- What one reading gives the other gives, too. -/
def Carries (x x' : Ranked α) : Prop :=
  ∀ a, x = .ok a → x' = .ok a

theorem Carries.map {x x' : Ranked α} (h : Carries x x') (f : α → β) :
    Carries (f <$> x) (f <$> x') := by
  intro b mapped
  obtain ⟨a, read, rfl⟩ := Ranked.map_eq_ok_iff.mp mapped
  exact Ranked.map_eq_ok_iff.mpr ⟨a, h a read, rfl⟩

theorem Carries.seq {f f' : Ranked (α → β)} {x x' : Ranked α} (hf : Carries f f')
    (hx : Carries x x') : Carries (f <*> x) (f' <*> x') := by
  intro b read
  obtain ⟨g, a, readF, readX, rfl⟩ := Ranked.seq_eq_ok_iff.mp read
  exact Ranked.seq_eq_ok_iff.mpr ⟨g, a, hf g readF, hx a readX, rfl⟩

/-- The document is the default of a field: it is read as that and as nothing else. -/
structure Fills (decode : Decoder α) (value : Json) (default : α) : Prop where
  reads : ∀ depth, value.nesting ≤ depth → decode depth value = .ok default
  only : ∀ depth a, decode depth value = .ok a → a = default

namespace FieldsStep

variable {kind : RecordKind} {fields fields' : Fields} {key : String} {decode : Decoder α}
  {default : α} {form : Form} {fieldForm : FieldForm}

theorem required (h : FieldsStep kind fields fields')
    (here : kind.fields.lookup key = some (.required form)) (follows : Follows form decode) :
    Carries (fields.required key decode) (fields'.required key decode) := by
  intro a read
  obtain ⟨value, found, read⟩ := Fields.required_eq_ok_iff.mp read
  have step := h.value? key (RecordKind.mem_keys_of_lookup here)
  replace here := RecordKind.fieldForm_of_lookup here
  rw [found] at step
  rw [Fields.required_eq_ok_iff, h.depth]
  generalize fields'.value? key = found' at step
  cases step with
  | same => exact ⟨value, rfl, read⟩
  | inside step =>
    rw [here] at step
    exact ⟨_, rfl, follows _ _ _ step a read⟩
  | cleared default => simp [here, FieldForm.required] at default

theorem optional (h : FieldsStep kind fields fields')
    (here : kind.fields.lookup key = some fieldForm)
    (fills : ∀ value ∈ fieldForm.defaults, Fills decode value default)
    (follows : Follows fieldForm.form decode) :
    Carries (fields.optional key decode default) (fields'.optional key decode default) := by
  have known := RecordKind.mem_keys_of_lookup here
  obtain rfl := RecordKind.fieldForm_of_lookup here
  intro a read
  have step := h.value? key known
  cases found : fields.value? key with
  | none =>
    rw [Fields.optional_of_none found] at read
    cases read
    rw [found] at step
    cases found' : fields'.value? key with
    | none => exact Fields.optional_of_none found'
    | some value' =>
      rw [found'] at step
      rw [Fields.optional_of_some found', h.depth]
      cases step with
      | filled default fits => exact (fills _ default).reads _ fits
  | some value =>
    rw [Fields.optional_of_some found] at read
    rw [found] at step
    cases found' : fields'.value? key with
    | none =>
      rw [found'] at step
      cases step with
      | cleared default' =>
        rw [Fields.optional_of_none found', (fills _ default').only _ _ read]
    | some value' =>
      rw [found'] at step
      rw [Fields.optional_of_some found', h.depth]
      cases step with
      | same => exact read
      | inside step => exact follows _ _ _ step a read

end FieldsStep

/-! ## What a step does to a record -/

section Record

variable {kind : RecordKind} {depth : Nat} {build : Fields → Ranked α}

/-- The fields of an object. -/
abbrev objectFields (kind : RecordKind) (depth : Nat) (members : List (Json × Json)) : Fields :=
  ⟨kind.schema, depth, .members members⟩

/-- A known member in front of others. -/
theorem membersChecked_known {members : List (Json × Json)} {key : String} {value : Json}
    (known : key ∈ kind.schema.keys) :
    MembersChecked kind.schema.keys ((.text key, value) :: members) ↔
      (∀ member ∈ members, member.1 ≠ .text key) ∧ MembersChecked kind.schema.keys members := by
  rw [membersChecked_cons]
  constructor
  · rintro ⟨-, apart, checked⟩
    exact ⟨fun member mem => apart member mem key known rfl, checked⟩
  · rintro ⟨apart, checked⟩
    refine ⟨⟨key, rfl, .inl known⟩, fun member mem key' _ same => ?_, checked⟩
    obtain rfl := text_inj.mp same
    exact apart member mem

theorem fieldsStep_reorder {members members' : List (Json × Json)} (perm : members.Perm members')
    (checked : MembersChecked kind.schema.keys members) :
    FieldsStep kind (objectFields kind depth members) (objectFields kind depth members') := by
  refine ⟨rfl, fun key known => ?_⟩
  have same : (objectFields kind depth members').value? key =
      (objectFields kind depth members).value? key := by
    refine Option.ext fun value => ?_
    rw [value?_members_eq_some_iff _ _ checked known,
      value?_members_eq_some_iff _ _ (checked.perm perm) known, perm.mem_iff]
  rw [same]
  exact .same _

theorem fieldsStep_addUnknown {members : List (Json × Json)} {name : String} {value : Json}
    (unknown : name ∉ kind.schema.keys) :
    FieldsStep kind (objectFields kind depth members)
      (objectFields kind depth ((.text name, value) :: members)) := by
  refine ⟨rfl, fun key known => ?_⟩
  have other : name ≠ key := fun same => unknown (same ▸ known)
  rw [value?_text_cons, if_neg other]
  exact .same _

theorem fieldsStep_addDefault {members : List (Json × Json)} {name : String} {value : Json}
    (absent : ∀ member ∈ members, member.1 ≠ .text name)
    (default : value ∈ (kind.fieldForm name).defaults) (fits : value.nesting ≤ depth) :
    FieldsStep kind (objectFields kind depth members)
      (objectFields kind depth ((.text name, value) :: members)) := by
  refine ⟨rfl, fun key known => ?_⟩
  rw [value?_text_cons]
  split
  case isTrue same =>
    subst same
    rw [value?_members_eq_none _ _ absent]
    exact .filled default fits
  case isFalse => exact .same _

theorem fieldsStep_dropDefault {members : List (Json × Json)} {name : String} {value : Json}
    (absent : ∀ member ∈ members, member.1 ≠ .text name)
    (default : value ∈ (kind.fieldForm name).defaults) :
    FieldsStep kind (objectFields kind depth ((.text name, value) :: members))
      (objectFields kind depth members) := by
  refine ⟨rfl, fun key known => ?_⟩
  rw [value?_text_cons]
  split
  case isTrue same =>
    subst same
    rw [value?_members_eq_none _ _ absent]
    exact .cleared default
  case isFalse => exact .same _

theorem fieldsStep_member {members : List (Json × Json)} {name : String} {value value' : Json}
    (inside : Step skippable (kind.fieldForm name).form depth value value') :
    FieldsStep kind (objectFields kind depth ((.text name, value) :: members))
      (objectFields kind depth ((.text name, value') :: members)) := by
  refine ⟨rfl, fun key known => ?_⟩
  rw [value?_text_cons, value?_text_cons]
  split
  case isTrue same =>
    subst same
    exact .inside inside
  case isFalse => exact .same _

theorem fieldsStep_field {before after : List Json} {name : String} {value value' : Json}
    (here : kind.schema.keys[before.length]? = some name)
    (inside : Step skippable (kind.fieldForm name).form depth value value') :
    FieldsStep kind ⟨kind.schema, depth, .items (before ++ value :: after)⟩
      ⟨kind.schema, depth, .items (before ++ value' :: after)⟩ := by
  refine ⟨rfl, fun key known => ?_⟩
  rw [value?_items, value?_items]
  by_cases place : kind.schema.keys.idxOf key = before.length
  · have same : name = key := by
      rw [← place] at here
      simpa [known] using here.symm
    subst same
    rw [place]
    simp only [List.getElem?_append_right (Nat.le_refl before.length), Nat.sub_self,
      List.getElem?_cons_zero]
    exact .inside inside
  · have other : (before ++ value' :: after)[kind.schema.keys.idxOf key]? =
        (before ++ value :: after)[kind.schema.keys.idxOf key]? := by
      simp only [List.getElem?_append, List.getElem?_cons]
      grind
    rw [other]
    exact .same _

/-- A record is read after a step if its fields are. -/
theorem follows_record
    (h : ∀ fields fields', FieldsStep kind fields fields' →
      Carries (build fields) (build fields')) :
    Follows (.record kind) (record kind.schema build) := by
  intro depth value value' step a read
  cases step with
  | reorder perm =>
    obtain ⟨checked, read⟩ := record_object_eq_ok_iff.mp read
    exact record_object_eq_ok_iff.mpr
      ⟨checked.perm perm, h _ _ (fieldsStep_reorder perm checked) a read⟩
  | addUnknown unknown skipped =>
    obtain ⟨checked, read⟩ := record_object_eq_ok_iff.mp read
    refine record_object_eq_ok_iff.mpr ⟨membersChecked_cons.mpr ⟨?_, ?_, checked⟩, ?_⟩
    · exact ⟨_, rfl, .inr (isWellFormed_of_skippable skipped)⟩
    · intro member _ key known same
      exact absurd known (text_inj.mp same ▸ unknown)
    · exact h _ _ (fieldsStep_addUnknown unknown) a read
  | addDefault absent default fits =>
    obtain ⟨checked, read⟩ := record_object_eq_ok_iff.mp read
    have known := mem_keys_of_mem_defaults default
    exact record_object_eq_ok_iff.mpr ⟨(membersChecked_known known).mpr ⟨absent, checked⟩,
      h _ _ (fieldsStep_addDefault absent default fits) a read⟩
  | dropDefault default =>
    obtain ⟨checked, read⟩ := record_object_eq_ok_iff.mp read
    have known := mem_keys_of_mem_defaults default
    obtain ⟨absent, checked⟩ := (membersChecked_known known).mp checked
    exact record_object_eq_ok_iff.mpr
      ⟨checked, h _ _ (fieldsStep_dropDefault absent default) a read⟩
  | member inside =>
    obtain ⟨checked, read⟩ := record_object_eq_ok_iff.mp read
    have known := mem_keys_of_step inside
    have checked := (membersChecked_known known).mp checked
    exact record_object_eq_ok_iff.mpr
      ⟨(membersChecked_known known).mpr checked, h _ _ (fieldsStep_member inside) a read⟩
  | field here inside =>
    obtain ⟨short, read⟩ := record_array_eq_ok_iff.mp read
    refine record_array_eq_ok_iff.mpr ⟨?_, h _ _ (fieldsStep_field here inside) a read⟩
    simpa using short

end Record

/-! ## What a step does to other values -/

theorem follows_plain (decode : Decoder α) : Follows .plain decode :=
  fun _ _ _ step => absurd step not_step_plain

theorem readItems_replace {read : Json → Except ReadError α} {before after : List Json}
    {value value' : Json} (h : ∀ a, read value = .ok a → read value' = .ok a) {as : List α}
    (all : readItems read (before ++ value :: after) = .ok as) :
    readItems read (before ++ value' :: after) = .ok as := by
  induction before generalizing as with
  | nil =>
    obtain ⟨a, others, first, rest, rfl⟩ := readItems_cons_eq_ok_iff.mp all
    exact readItems_cons_eq_ok_iff.mpr ⟨a, others, h a first, rest, rfl⟩
  | cons item before ih =>
    obtain ⟨a, others, first, rest, rfl⟩ := readItems_cons_eq_ok_iff.mp all
    exact readItems_cons_eq_ok_iff.mpr ⟨a, others, first, ih rest, rfl⟩

theorem follows_list {kind : RecordKind} {decode : Decoder α} (h : Follows (.record kind) decode) :
    Follows (.list kind) (listOf decode) := by
  intro depth value value' step as read
  cases step with
  | item inside => exact readItems_replace (h _ _ _ inside) read

theorem ne_null_of_nesting {value : Json} (container : value.nesting ≠ 0) : value ≠ .null := by
  rintro rfl
  exact container rfl

theorem follows_nullable {form : Form} {decode : Decoder α} (h : Follows form decode) :
    Follows form (nullable decode) := by
  intro depth value value' step a given
  obtain ⟨container, container'⟩ := nesting_ne_zero_of_step step
  obtain ⟨b, read, rfl⟩ := (nullable_eq_ok_iff (ne_null_of_nesting container)).mp given
  exact (nullable_eq_ok_iff (ne_null_of_nesting container')).mpr ⟨b, h _ _ _ step b read, rfl⟩

/-! ## The documents of defaults -/

section Fills

variable {decode : Decoder α} {value : Json} {default : α}

theorem fills_of_eq (h : ∀ depth, decode depth value = .ok default) :
    Fills decode value default where
  reads depth _ := h depth
  only depth _ read := Except.ok.inj (read.symm.trans (h depth))

theorem fills_of_container {error : ReadError} (container : value.nesting ≠ 0)
    (closed : decode 0 value = .error error) (h : ∀ depth, decode (depth + 1) value = .ok default) :
    Fills decode value default where
  reads depth fits := by
    obtain _ | depth := depth
    · exact absurd (Nat.le_zero.mp fits) container
    · exact h depth
  only depth a read := by
    obtain _ | depth := depth
    · rw [closed] at read
      cases read
    · exact Except.ok.inj (read.symm.trans (h depth))

theorem fills_flag : ∀ value ∈ FieldForm.flag.defaults, Fills flag value false := by
  rw [FieldForm.flag, List.forall_mem_singleton]
  exact fills_of_eq fun _ => rfl

theorem fills_list (kind : RecordKind) (decode : Decoder α) :
    ∀ value ∈ (FieldForm.list kind).defaults, Fills (listOf decode) value [] := by
  rw [FieldForm.list, List.forall_mem_singleton]
  exact fills_of_container (by simp [Json.nesting]) rfl fun _ => rfl

theorem fills_nullable (form : Form) (decode : Decoder α) :
    ∀ value ∈ (FieldForm.nullable form).defaults, Fills (nullable decode) value none := by
  rw [FieldForm.nullable, List.forall_mem_singleton]
  exact fills_of_eq fun _ => rfl

theorem fills_typeKind :
    ∀ value ∈ (FieldForm.enumeration "class").defaults, Fills typeKind value .classType := by
  rw [FieldForm.enumeration, List.forall_mem_cons, List.forall_mem_singleton]
  exact ⟨fills_of_eq fun _ => rfl, fills_of_container (by simp [Json.nesting]) rfl fun _ => rfl⟩

theorem fills_accessibility :
    ∀ value ∈ (FieldForm.enumeration "private").defaults,
      Fills accessibility value .privateAccess := by
  rw [FieldForm.enumeration, List.forall_mem_cons, List.forall_mem_singleton]
  exact ⟨fills_of_eq fun _ => rfl, fills_of_container (by simp [Json.nesting]) rfl fun _ => rfl⟩

end Fills

/-! ## The records of a snapshot -/

theorem follows_location : Follows (.record .location) location :=
  follows_record fun _ _ step =>
    (step.required rfl (follows_plain text)).map _
      |>.seq (step.required rfl (follows_plain word))
      |>.seq (step.required rfl (follows_plain word))

/-- References, on their own and among the arguments of an attribute, have the same fields. -/
theorem follows_typeRefWithin {kind : RecordKind} (h : kind = .reference ∨ kind = .argument)
    (levels : Nat) : Follows (.record kind) (typeRefWithin levels) := by
  induction levels with
  | zero => exact fun _ _ _ _ _ read => nomatch read
  | succ levels ih =>
    rcases h with rfl | rfl <;>
      exact follows_record fun _ _ step =>
        (step.required rfl (follows_plain text)).map _
          |>.seq (step.optional rfl (fills_nullable _ text) (follows_plain _))
          |>.seq (step.optional rfl fills_typeKind (follows_plain _))
          |>.seq (step.optional rfl (fills_list _ _) (follows_list ih))
          |>.seq (step.optional rfl fills_flag (follows_plain flag))

theorem follows_typeRef : Follows (.record .reference) typeRef :=
  fun depth => follows_typeRefWithin (.inl rfl) (depth + 1) depth

/-! ## Arguments of attributes -/

/-- The forms of documents among the arguments of an attribute. -/
def Form.IsKept (form : Form) : Prop :=
  form = .record .argument ∨ form = .list .argument ∨ form = .plain

instance : DecidablePred Form.IsKept := fun form =>
  inferInstanceAs (Decidable (form = .record .argument ∨ form = .list .argument ∨ form = .plain))

theorem isKept_argument (key : String) : (RecordKind.argument.fieldForm key).form.IsKept := by
  by_cases known : key ∈ RecordKind.argument.schema.keys
  · revert key
    decide
  · rw [RecordKind.fieldForm_of_not_mem known]
    exact .inr (.inr rfl)

theorem isReadable_default {key : String} {depth : Nat} {value : Json}
    (default : value ∈ (RecordKind.argument.fieldForm key).defaults)
    (fits : value.nesting ≤ depth) : value.isReadable depth := by
  have container (h : value = .array [] ∨ value = .object [(.text "class", .null)]) :
      value.isReadable depth := by
    obtain _ | depth := depth
    · rcases h with rfl | rfl <;> simp [Json.nesting] at fits
    · rcases h with rfl | rfl <;> rfl
  have known := mem_keys_of_mem_defaults default
  simp only [RecordKind.schema, typeRefSchema, List.mem_cons, List.not_mem_nil, or_false] at known
  rcases known with rfl | rfl | rfl | rfl | rfl
  · exact absurd default List.not_mem_nil
  · cases List.mem_singleton.mp default
    rfl
  · rcases List.mem_cons.mp default with rfl | default
    · rfl
    · exact container (.inr (List.mem_singleton.mp default))
  · exact container (.inl (List.mem_singleton.mp default))
  · cases List.mem_singleton.mp default
    rfl

/-- Among the arguments of an attribute, what could be kept can be kept after a step. -/
theorem isReadable_of_step {form : Form} {depth : Nat} {value value' : Json}
    (step : Step skippable form depth value value') (kept : form.IsKept)
    (readable : value.isReadable depth) : value'.isReadable depth := by
  induction step with
  | reorder perm =>
    rw [Json.isReadable_object_iff] at readable ⊢
    exact fun member mem => readable member (perm.mem_iff.mpr mem)
  | addUnknown unknown skipped =>
    obtain rfl : _ = RecordKind.argument := by simpa [Form.IsKept] using kept
    rw [Json.isReadable_object_iff] at readable ⊢
    exact List.forall_mem_cons.mpr ⟨⟨rfl, rfl, skipped⟩, readable⟩
  | addDefault absent default fits =>
    obtain rfl : _ = RecordKind.argument := by simpa [Form.IsKept] using kept
    rw [Json.isReadable_object_iff] at readable ⊢
    exact List.forall_mem_cons.mpr ⟨⟨rfl, rfl, isReadable_default default fits⟩, readable⟩
  | dropDefault default =>
    rw [Json.isReadable_object_iff] at readable ⊢
    exact (List.forall_mem_cons.mp readable).2
  | member inside ih =>
    obtain rfl : _ = RecordKind.argument := by simpa [Form.IsKept] using kept
    rw [Json.isReadable_object_iff] at readable ⊢
    obtain ⟨⟨isString, key, value⟩, others⟩ := List.forall_mem_cons.mp readable
    exact List.forall_mem_cons.mpr ⟨⟨isString, key, ih (isKept_argument _) value⟩, others⟩
  | field here inside ih =>
    obtain rfl : _ = RecordKind.argument := by simpa [Form.IsKept] using kept
    rw [Json.isReadable_array_iff, List.forall_mem_append, List.forall_mem_cons] at readable ⊢
    obtain ⟨before, value, after⟩ := readable
    exact ⟨before, ih (isKept_argument _) value, after⟩
  | item inside ih =>
    obtain rfl : _ = RecordKind.argument := by simpa [Form.IsKept] using kept
    rw [Json.isReadable_array_iff, List.forall_mem_append, List.forall_mem_cons] at readable ⊢
    obtain ⟨before, value, after⟩ := readable
    exact ⟨before, ih (.inl rfl) value, after⟩

/-- A container is an argument if it can be kept and is a reference. -/
theorem attributeValue_eq_ok_iff {depth : Nat} {value : Json} {a : AttributeValue}
    (container : value.nesting ≠ 0) :
    attributeValue depth value = .ok a ↔
      value.isReadable depth ∧ ∃ type, typeRef depth value = .ok type ∧ .type type = a := by
  cases value with
  | array | object =>
    unfold attributeValue
    split_ifs with readable
    · simp only [readable, true_and]
      split <;> simp_all
    · simp [readable]
  | null | bool | number | string | malformed => exact absurd rfl container

theorem follows_attributeValue : Follows (.record .argument) attributeValue := by
  intro depth value value' step a given
  obtain ⟨container, container'⟩ := nesting_ne_zero_of_step step
  obtain ⟨readable, type, read, rfl⟩ := (attributeValue_eq_ok_iff container).mp given
  refine (attributeValue_eq_ok_iff container').mpr
    ⟨isReadable_of_step step (.inl rfl) readable, type, ?_, rfl⟩
  exact follows_typeRefWithin (.inr rfl) (depth + 1) depth _ _ step type read

theorem follows_attribute : Follows (.record .attribute) attributeData :=
  follows_record fun _ _ step =>
    (step.required rfl (follows_plain text)).map _
      |>.seq (step.optional rfl (fills_list _ _)
        (follows_list (follows_nullable follows_attributeValue)))
      |>.seq (step.optional rfl (fills_nullable _ _) (follows_nullable follows_location))

theorem follows_typeParameter : Follows (.record .typeParameter) typeParameter :=
  follows_record fun _ _ step =>
    (step.required rfl (follows_plain text)).map _
      |>.seq (step.optional rfl (fills_list _ _) (follows_list follows_typeRef))
      |>.seq (step.optional rfl fills_flag (follows_plain flag))
      |>.seq (step.optional rfl fills_flag (follows_plain flag))
      |>.seq (step.optional rfl fills_flag (follows_plain flag))

theorem follows_parameter : Follows (.record .parameter) parameter :=
  follows_record fun _ _ step =>
    (step.required rfl (follows_plain text)).map _
      |>.seq (step.required rfl follows_typeRef)

theorem follows_constructor : Follows (.record .constructor) constructor :=
  follows_record fun _ _ step =>
    (step.optional rfl fills_accessibility (follows_plain _)).map _
      |>.seq (step.optional rfl (fills_list _ _) (follows_list follows_parameter))
      |>.seq (step.optional rfl (fills_nullable _ _) (follows_nullable follows_location))

theorem follows_property : Follows (.record .property) property :=
  follows_record fun _ _ step =>
    (step.required rfl (follows_plain text)).map _
      |>.seq (step.required rfl follows_typeRef)
      |>.seq (step.optional rfl (fills_nullable _ _) (follows_plain _))
      |>.seq (step.optional rfl (fills_nullable _ _) (follows_plain _))
      |>.seq (step.optional rfl fills_flag (follows_plain flag))
      |>.seq (step.optional rfl fills_flag (follows_plain flag))
      |>.seq (step.optional rfl fills_flag (follows_plain flag))

theorem follows_field : Follows (.record .field) field :=
  follows_record fun _ _ step =>
    (step.required rfl (follows_plain text)).map _
      |>.seq (step.required rfl follows_typeRef)
      |>.seq (step.optional rfl fills_flag (follows_plain flag))
      |>.seq (step.optional rfl fills_flag (follows_plain flag))

theorem follows_method : Follows (.record .method) method :=
  follows_record fun _ _ step =>
    (step.required rfl (follows_plain text)).map _
      |>.seq (step.optional rfl (fills_list _ _) (follows_list follows_parameter))
      |>.seq (step.optional rfl fills_flag (follows_plain flag))
      |>.seq (step.optional rfl (fills_nullable _ _) (follows_nullable follows_location))

theorem fills_namespace :
    ∀ value ∈ (RecordKind.namedType.fieldForm "namespace").defaults, Fills text value "" :=
  List.forall_mem_singleton.mpr (fills_of_eq fun _ => rfl)

theorem follows_namedType : Follows (.record .namedType) namedType :=
  follows_record fun _ _ step =>
    (step.required rfl (follows_plain text)).map _
      |>.seq (step.optional rfl fills_namespace (follows_plain text))
      |>.seq (step.optional rfl fills_typeKind (follows_plain _))
      |>.seq (step.optional rfl fills_flag (follows_plain flag))
      |>.seq (step.optional rfl (fills_list _ _) (follows_list follows_typeParameter))
      |>.seq (step.optional rfl (fills_nullable _ _) (follows_nullable follows_typeRef))
      |>.seq (step.optional rfl (fills_list _ _) (follows_list follows_typeRef))
      |>.seq (step.optional rfl (fills_list _ _) (follows_list follows_constructor))
      |>.seq (step.optional rfl (fills_list _ _) (follows_list follows_property))
      |>.seq (step.optional rfl (fills_list _ _) (follows_list follows_field))
      |>.seq (step.optional rfl (fills_list _ _) (follows_list follows_method))
      |>.seq (step.optional rfl (fills_list _ _) (follows_list follows_attribute))
      |>.seq (step.optional rfl (fills_nullable _ _) (follows_nullable follows_location))

theorem follows_compilation : Follows (.record .compilation) compilation :=
  follows_record fun _ _ step =>
    (step.optional rfl fills_flag (follows_plain flag)).map _
      |>.seq (step.optional rfl (fills_list _ _) (follows_list follows_attribute))
      |>.seq (step.optional rfl (fills_list _ _) (follows_list follows_namedType))

/-- What is read is read again after any number of steps. -/
theorem Follows.run {form : Form} {decode : Decoder α} (h : Follows form decode) {depth : Nat}
    {value value' : Json} {a : α}
    (steps : Relation.ReflTransGen (Step skippable form depth) value value')
    (read : decode depth value = .ok a) : decode depth value' = .ok a := by
  induction steps with
  | refl => exact read
  | tail _ step ih => exact h _ _ _ step a ih

end Snapshot

namespace Compilation

open Snapshot

theorem ofText_eq_ok_iff {text : String} {model : Compilation} :
    ofText text = .ok model ↔
      compilation nestingLimit (Json.ofText text).1 = .ok model ∧ (Json.ofText text).2 := by
  change (compilation nestingLimit (Json.ofText text).1).bind (fun model =>
    if (Json.ofText text).2 then .ok model else .error .malformed) = .ok model ↔ _
  cases compilation nestingLimit (Json.ofText text).1 with
  | error => simp [Except.bind]
  | ok read =>
    by_cases complete : (Json.ofText text).2 <;> simp [Except.bind, complete]

/-- **Only the content of a snapshot matters**: a text that is read goes on to be read as the same
compilation when the members of its records are reordered, when members that no record knows are
added, and when fields that have their defaults are added or dropped, at any depth and any number
of times. Among the arguments of an attribute, the added members have to be such as can be kept. -/
theorem ofText_of_steps {text text' : String} {model : Compilation}
    (accepted : ofText text = .ok model)
    (steps : Relation.ReflTransGen (Step skippable (.record .compilation) nestingLimit)
      (Json.ofText text).1 (Json.ofText text').1)
    (complete : (Json.ofText text').2) : ofText text' = .ok model := by
  have read := (ofText_eq_ok_iff.mp accepted).1
  exact ofText_eq_ok_iff.mpr ⟨follows_compilation.run steps read, complete⟩

/-- A class moves its kind to the front and drops it, and the snapshot gains a flag with its default
and a member that no record knows. -/
theorem ofText_of_steps_class :
    let document : Json := .record
      [("types", .array [.record [("name", .text "A"), ("kind", .text "class")]])]
    let document' : Json := .record [("note", .int 1),
      ("types", .array [.record [("name", .text "A")]]), ("nullable_enabled", .bool false)]
    ofText document.pretty = .ok { types := [{ name := "A" }] } ∧
      Relation.ReflTransGen (Step skippable (.record .compilation) nestingLimit)
        (Json.ofText document.pretty).1 (Json.ofText document'.pretty).1 ∧
      (Json.ofText document'.pretty).2 ∧
      ofText document'.pretty = .ok { types := [{ name := "A" }] } := by
  intro document document'
  have printable : document.IsPrintable :=
    isPrintable_record (List.forall_mem_singleton.mpr (.array _ (List.forall_mem_singleton.mpr
      (isPrintable_record (by simp [Json.IsPrintable.text])))))
  have named : (Json.record [("name", .text "A")]).IsPrintable :=
    isPrintable_record (by simp [Json.IsPrintable.text])
  have printable' : document'.IsPrintable :=
    isPrintable_record (by
      simp [isPrintable_int, Json.IsPrintable.bool, Json.IsPrintable.array, named])
  have accepted : ofText document.pretty = .ok { types := [{ name := "A" }] } := by
    rw [ofText_eq_ok_iff, Json.ofText_pretty printable]
    exact ⟨rfl, rfl⟩
  have steps : Relation.ReflTransGen (Step skippable (.record .compilation) nestingLimit)
      (Json.ofText document.pretty).1 (Json.ofText document'.pretty).1 := by
    rw [Json.ofText_pretty printable, Json.ofText_pretty printable']
    have moved : Step skippable (.record .namedType) 125
        (.record [("name", .text "A"), ("kind", .text "class")])
        (.record [("kind", .text "class"), ("name", .text "A")]) := .reorder (.swap _ _ _)
    have dropped : Step skippable (.record .namedType) 125
        (.record [("kind", .text "class"), ("name", .text "A")]) (.record [("name", .text "A")]) :=
      .dropDefault List.mem_cons_self
    have filled : Step skippable (.record .compilation) nestingLimit
        (.record [("types", .array [.record [("name", .text "A")]])])
        (.record [("nullable_enabled", .bool false),
          ("types", .array [.record [("name", .text "A")]])]) :=
      .addDefault (by simp [Json.text]) List.mem_cons_self (Nat.zero_le _)
    refine .head (.member (@Step.item _ _ _ [] [] _ _ moved)) ?_
    refine .head (.member (@Step.item _ _ _ [] [] _ _ dropped)) ?_
    refine .head filled (.head (.reorder (.swap _ _ _)) ?_)
    exact .single (.addUnknown (by decide) rfl)
  have complete : (Json.ofText document'.pretty).2 := by rw [Json.ofText_pretty printable']
  exact ⟨accepted, steps, complete, ofText_of_steps accepted steps complete⟩

/-- Among the arguments of an attribute a member that no record knows is not skipped but kept, and a
number that is too large cannot be. -/
theorem ofText_huge_argument :
    let huge : Json := .number { negative := false, integer := 1, exponent := some 999 }
    let document (members : List (String × Json)) : Json :=
      .record [("assembly_attributes", .array [.record
        [("arguments", .array [.record (members ++ [("name", .text "T")])]), ("name", .text "X")]])]
    let model : Compilation := { assemblyAttributes := [
      { name := "X", arguments := [some (.type (.named "" "T" .classType))] }] }
    let text := (document []).pretty
    let text' := (document [("weight", huge)]).pretty
    ofText text = .ok model ∧
      Relation.ReflTransGen (Step (fun _ _ value => value.isWellFormed) (.record .compilation)
        nestingLimit) (Json.ofText text).1 (Json.ofText text').1 ∧
      (Json.ofText text').2 ∧ ofText text' ≠ .ok model := by
  intro huge document model text text'
  have printable (members : List (String × Json))
      (h : ∀ member ∈ members, member.2.IsPrintable) : (document members).IsPrintable := by
    have reference : (Json.record (members ++ [("name", .text "T")])).IsPrintable :=
      isPrintable_record (List.forall_mem_append.mpr ⟨h, by simp [Json.IsPrintable.text]⟩)
    refine isPrintable_record (List.forall_mem_singleton.mpr (.array _ ?_))
    exact List.forall_mem_singleton.mpr
      (isPrintable_record (by simp [Json.IsPrintable.text, Json.IsPrintable.array, reference]))
  have tree : Json.ofText text = (document [], true) :=
    Json.ofText_pretty (printable [] (by simp))
  have tree' : Json.ofText text' = (document [("weight", huge)], true) :=
    Json.ofText_pretty (printable _ (List.forall_mem_singleton.mpr (.number _ (by simp))))
  refine ⟨?_, ?_, by rw [tree'], ?_⟩
  · rw [ofText_eq_ok_iff, tree]
    exact ⟨rfl, rfl⟩
  · rw [tree, tree']
    have added : Step (fun _ _ value => value.isWellFormed) (.record .argument) 123
        (.record [("name", .text "T")]) (.record [("weight", huge), ("name", .text "T")]) :=
      .addUnknown (by decide) rfl
    have inside := @Step.member _ .attribute 124 [(.text "name", .text "X")] "arguments" _ _
      (@Step.item _ _ _ [] [] _ _ added)
    exact .single (.member (@Step.item _ _ _ [] [] _ _ inside))
  · rw [ne_eq, ofText_eq_ok_iff, tree']
    have refused : compilation nestingLimit (document [("weight", huge)]) = .error .malformed := rfl
    simp [refused]

end Compilation

end FluentGen
