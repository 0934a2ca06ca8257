import FluentGen.Proofs.JsonParts
import FluentGen.Snapshot.Schemas
/-!
# The form of a snapshot and its changes

What the documents inside a snapshot are read as, with the documents that stand for the defaults of
fields, and the changes to a document that leave what it says alone.

## Main definitions
* `RecordKind`, `Form`: the records of a snapshot, and what a document is read as.
* `RecordKind.fields`: the fields of a record with their forms and defaults.
* `Step`: one change to a document, at any depth.
* `skippable`: the values that members with unknown keys may have.
-/
namespace FluentGen.Snapshot

/-! ## The form of a document -/

/-- The records of a snapshot. A reference among the arguments of an attribute is a record of its
own: arguments are kept whole before it is clear what they are. -/
inductive RecordKind where
  | compilation | namedType | typeParameter | constructor | property | field | method | parameter
  | attribute | location | reference | argument
  deriving DecidableEq, Repr

/-- What the document at some place is read as: a value without records, a record that may be
`null`, or a list of such records. -/
inductive Form where
  | plain
  | record (kind : RecordKind)
  | list (kind : RecordKind)
  deriving DecidableEq, Repr

/-- A field of a record: its form, and the documents that stand for its default. -/
structure FieldForm where
  form : Form := .plain
  defaults : List Json := []

namespace FieldForm

/-- A field that has to be there. -/
def required (form : Form) : FieldForm :=
  { form }

/-- A flag that is off by default. -/
def flag : FieldForm :=
  { defaults := [.bool false] }

/-- A list that is empty by default. -/
def list (kind : RecordKind) : FieldForm :=
  { form := .list kind, defaults := [.array []] }

/-- A value that is absent by default. -/
def nullable (form : Form) : FieldForm :=
  { form, defaults := [.null] }

/-- A name, alone or as the key of an object, that is `name` by default. -/
def enumeration (name : String) : FieldForm :=
  { defaults := [.text name, .object [(.text name, .null)]] }

end FieldForm

namespace RecordKind

/-- The schema of a record. -/
def schema : RecordKind → Schema
  | .compilation => compilationSchema
  | .namedType => namedTypeSchema
  | .typeParameter => typeParameterSchema
  | .constructor => constructorSchema
  | .property => propertySchema
  | .field => fieldSchema
  | .method => methodSchema
  | .parameter => parameterSchema
  | .attribute => attributeSchema
  | .location => locationSchema
  | .reference | .argument => typeRefSchema

/-- The forms of the fields of a record. -/
def fields : RecordKind → List (String × FieldForm)
  | .compilation => [("nullable_enabled", .flag), ("assembly_attributes", .list .attribute),
      ("types", .list .namedType)]
  | .namedType => [("name", .required .plain), ("namespace", { defaults := [.text ""] }),
      ("kind", .enumeration "class"), ("is_abstract", .flag),
      ("type_parameters", .list .typeParameter), ("base_type", .nullable (.record .reference)),
      ("interfaces", .list .reference), ("constructors", .list .constructor),
      ("properties", .list .property), ("fields", .list .field), ("methods", .list .method),
      ("attributes", .list .attribute), ("location", .nullable (.record .location))]
  | .typeParameter => [("name", .required .plain), ("constraint_types", .list .reference),
      ("reference_type", .flag), ("value_type", .flag), ("constructor", .flag)]
  | .constructor => [("accessibility", .enumeration "private"), ("parameters", .list .parameter),
      ("location", .nullable (.record .location))]
  | .property => [("name", .required .plain), ("type", .required (.record .reference)),
      ("getter", .nullable .plain), ("setter", .nullable .plain), ("is_static", .flag),
      ("is_computed", .flag), ("is_indexer", .flag)]
  | .field => [("name", .required .plain), ("type", .required (.record .reference)),
      ("is_const", .flag), ("is_static", .flag)]
  | .method => [("name", .required .plain), ("parameters", .list .parameter), ("is_static", .flag),
      ("location", .nullable (.record .location))]
  | .parameter => [("name", .required .plain), ("type", .required (.record .reference))]
  | .attribute => [("name", .required .plain), ("arguments", .list .argument),
      ("location", .nullable (.record .location))]
  | .location => [("file", .required .plain), ("line", .required .plain),
      ("column", .required .plain)]
  | .reference => [("name", .required .plain), ("namespace", .nullable .plain),
      ("kind", .enumeration "class"), ("type_arguments", .list .reference), ("nullable", .flag)]
  | .argument => [("name", .required .plain), ("namespace", .nullable .plain),
      ("kind", .enumeration "class"), ("type_arguments", .list .argument), ("nullable", .flag)]

theorem map_fields (kind : RecordKind) : kind.fields.map (·.1) = kind.schema.keys := by
  cases kind <;> rfl

/-- The form of a field; other members have none. -/
def fieldForm (kind : RecordKind) (key : String) : FieldForm :=
  (kind.fields.lookup key).getD {}

theorem mem_keys_of_lookup {kind : RecordKind} {key : String} {field : FieldForm}
    (h : kind.fields.lookup key = some field) : key ∈ kind.schema.keys := by
  obtain ⟨before, after, split, -⟩ := List.lookup_eq_some_iff.mp h
  rw [← map_fields, split]
  simp

theorem fieldForm_of_lookup {kind : RecordKind} {key : String} {field : FieldForm}
    (h : kind.fields.lookup key = some field) : kind.fieldForm key = field := by
  rw [fieldForm, h, Option.getD_some]

theorem fieldForm_of_not_mem {kind : RecordKind} {key : String} (h : key ∉ kind.schema.keys) :
    kind.fieldForm key = {} := by
  have absent : kind.fields.lookup key = none :=
    Option.eq_none_iff_forall_ne_some.mpr fun field found => h (mem_keys_of_lookup found)
  rw [fieldForm, absent, Option.getD_none]

end RecordKind

/-! ## Changes -/

/-- One change to a document that is read as a `form`: the members of a record are reordered, a
member with an unknown key is added, a field with its default is added or dropped, or a change is
made to a record inside. The number is how many containers may nest around and inside the document,
and `skips` says which values an unknown key may have. -/
inductive Step (skips : RecordKind → Nat → Json → Prop) : Form → Nat → Json → Json → Prop
  /-- The members of an object change places. -/
  | reorder {kind : RecordKind} {depth : Nat} {members members' : List (Json × Json)}
    (perm : members.Perm members') :
    Step skips (.record kind) (depth + 1) (.object members) (.object members')
  /-- An object gains a member that its record does not know. -/
  | addUnknown {kind : RecordKind} {depth : Nat} {members : List (Json × Json)} {name : String}
    {value : Json} (unknown : name ∉ kind.schema.keys) (skipped : skips kind depth value) :
    Step skips (.record kind) (depth + 1) (.object members)
      (.object ((.text name, value) :: members))
  /-- An object gains a field that has its default. -/
  | addDefault {kind : RecordKind} {depth : Nat} {members : List (Json × Json)} {key : String}
    {value : Json} (absent : ∀ member ∈ members, member.1 ≠ .text key)
    (default : value ∈ (kind.fieldForm key).defaults) (fits : value.nesting ≤ depth) :
    Step skips (.record kind) (depth + 1) (.object members)
      (.object ((.text key, value) :: members))
  /-- An object loses a field that has its default. -/
  | dropDefault {kind : RecordKind} {depth : Nat} {members : List (Json × Json)} {key : String}
    {value : Json} (default : value ∈ (kind.fieldForm key).defaults) :
    Step skips (.record kind) (depth + 1) (.object ((.text key, value) :: members))
      (.object members)
  /-- A change inside a field of an object. -/
  | member {kind : RecordKind} {depth : Nat} {members : List (Json × Json)} {key : String}
    {value value' : Json} (inside : Step skips (kind.fieldForm key).form depth value value') :
    Step skips (.record kind) (depth + 1) (.object ((.text key, value) :: members))
      (.object ((.text key, value') :: members))
  /-- A change inside a field of a record that is written as an array. -/
  | field {kind : RecordKind} {depth : Nat} {before after : List Json} {key : String}
    {value value' : Json} (here : kind.schema.keys[before.length]? = some key)
    (inside : Step skips (kind.fieldForm key).form depth value value') :
    Step skips (.record kind) (depth + 1) (.array (before ++ value :: after))
      (.array (before ++ value' :: after))
  /-- A change inside an item of a list. -/
  | item {kind : RecordKind} {depth : Nat} {before after : List Json} {value value' : Json}
    (inside : Step skips (.record kind) depth value value') :
    Step skips (.list kind) (depth + 1) (.array (before ++ value :: after))
      (.array (before ++ value' :: after))

section Step

variable {skips : RecordKind → Nat → Json → Prop} {kind : RecordKind} {depth : Nat}

theorem mem_keys_of_mem_defaults {key : String} {value : Json}
    (h : value ∈ (kind.fieldForm key).defaults) : key ∈ kind.schema.keys := by
  by_contra unknown
  rw [RecordKind.fieldForm_of_not_mem unknown] at h
  simp at h

theorem not_step_plain {value value' : Json} : ¬Step skips .plain depth value value' :=
  nofun

theorem mem_keys_of_step {key : String} {value value' : Json}
    (h : Step skips (kind.fieldForm key).form depth value value') : key ∈ kind.schema.keys := by
  by_contra unknown
  rw [RecordKind.fieldForm_of_not_mem unknown] at h
  exact not_step_plain h

/-- Only containers are changed, and they stay containers. -/
theorem nesting_ne_zero_of_step {form : Form} {value value' : Json}
    (h : Step skips form depth value value') : value.nesting ≠ 0 ∧ value'.nesting ≠ 0 := by
  cases h <;> simp [Json.nesting]

end Step

/-- The values that a reader skips: all that are JSON, but among the arguments of an attribute only
those that can be kept. -/
def skippable : RecordKind → Nat → Json → Prop
  | .argument, depth, value => value.isReadable depth
  | _, _, value => value.isWellFormed

theorem isWellFormed_of_skippable {kind : RecordKind} {depth : Nat} {value : Json}
    (h : skippable kind depth value) : value.isWellFormed := by
  cases kind with
  | argument => exact Json.isWellFormed_of_isReadable h
  | _ => exact h

end FluentGen.Snapshot
