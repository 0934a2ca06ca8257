import FluentGen.Snapshot.Reader
import Mathlib.Data.List.Nodup
import Mathlib.Data.List.Perm.Basic
/-!
# What a record needs to be read

A record is read if each of its fields is and its parts are in order. Where in the document a
field stands plays no part in that, only what its value is.

## Main definitions
* `Fields.value?`: the value of a field.
* `MembersChecked`: the members of an object are in order.

## Main statements
* `required_eq_ok_iff`, `optional_of_some`: a field is read from its value alone.
* `record_object_eq_ok_iff`, `record_array_eq_ok_iff`: when a record is read.
* `value?_members_eq_some_iff`: the value of a field is the one at its key.
* `readItems_cons_eq_ok_iff`, `nullable_eq_ok_iff`: when lists and optional values are read.
-/
namespace FluentGen.Snapshot

variable {α β : Type}

namespace Ranked

theorem seq_eq_ok_iff {f : Ranked (α → β)} {x : Ranked α} {b : β} :
    f <*> x = .ok b ↔ ∃ g a, f = .ok g ∧ x = .ok a ∧ g a = b := by
  change f.apply x = .ok b ↔ _
  cases f <;> cases x <;> simp [apply]
  split <;> simp

theorem map_eq_ok_iff {g : α → β} {x : Ranked α} {b : β} :
    g <$> x = .ok b ↔ ∃ a, x = .ok a ∧ g a = b := by
  change Ranked.apply (.ok g) x = .ok b ↔ _
  cases x <;> simp [apply]

theorem seqLeft_eq_ok_iff {x : Ranked α} {y : Ranked β} {a : α} :
    x <* y = .ok a ↔ x = .ok a ∧ ∃ b, y = .ok b := by
  change Function.const β <$> x <*> y = .ok a ↔ _
  rw [seq_eq_ok_iff]
  constructor
  · rintro ⟨g, b, mapped, check, rfl⟩
    obtain ⟨a, read, rfl⟩ := map_eq_ok_iff.mp mapped
    exact ⟨read, b, check⟩
  · rintro ⟨read, b, check⟩
    exact ⟨_, b, map_eq_ok_iff.mpr ⟨a, read, rfl⟩, check, rfl⟩

theorem toExcept_eq_ok_iff {x : Ranked α} {a : α} : x.toExcept = .ok a ↔ x = .ok a := by
  cases x <;> simp [toExcept]

theorem atPlace_eq_ok_iff {place : Nat} {outcome : Except ReadError α} {a : α} :
    atPlace place outcome = .ok a ↔ outcome = .ok a := by
  cases outcome <;> simp [atPlace]

end Ranked

/-! ## Fields -/

namespace Fields

variable {fields : Fields} {key : String} {decode : Decoder α} {a default : α}

/-- The value of a field. -/
def value? (fields : Fields) (key : String) : Option Json :=
  (fields.find? key).map (·.2)

theorem required_eq_ok_iff :
    fields.required key decode = .ok a ↔
      ∃ value, fields.value? key = some value ∧ decode fields.depth value = .ok a := by
  unfold required value?
  cases fields.find? key with
  | none =>
    unfold missing
    cases fields.parts <;> simp
  | some found => simp [Ranked.atPlace_eq_ok_iff]

theorem optional_of_some {value : Json} (h : fields.value? key = some value) :
    fields.optional key decode default = .ok a ↔ decode fields.depth value = .ok a := by
  obtain ⟨⟨place, _⟩, found, rfl⟩ := Option.map_eq_some_iff.mp h
  rw [optional, found]
  exact Ranked.atPlace_eq_ok_iff

theorem optional_of_none (h : fields.value? key = none) :
    fields.optional key decode default = .ok default := by
  rw [optional, Option.map_eq_none_iff.mp h]

end Fields

/-! ## Members -/

theorem text_inj {name name' : String} : Json.text name = .text name' ↔ name = name' := by
  simp [Json.text]

theorem isKey_eq_true_iff {name : String} {key : Json} :
    isKey name key = true ↔ key = .text name := by
  unfold isKey Json.text
  split <;> simp_all

/-- The members of an object are in order: keys are texts, other keys than those of fields have
well-formed values, and no field is given twice. -/
structure MembersChecked (keys : List String) (members : List (Json × Json)) : Prop where
  named : ∀ member ∈ members, ∃ name, member.1 = .text name ∧ (name ∈ keys ∨ member.2.isWellFormed)
  unique : members.Pairwise fun member member' =>
    ∀ key ∈ keys, member.1 = .text key → member'.1 ≠ .text key

theorem membersChecked_nil (keys : List String) : MembersChecked keys [] :=
  ⟨by simp, .nil⟩

theorem membersChecked_cons {keys : List String} {member : Json × Json}
    {members : List (Json × Json)} :
    MembersChecked keys (member :: members) ↔
      (∃ name, member.1 = .text name ∧ (name ∈ keys ∨ member.2.isWellFormed)) ∧
        (∀ member' ∈ members, ∀ key ∈ keys, member.1 = .text key → member'.1 ≠ .text key) ∧
        MembersChecked keys members := by
  constructor
  · rintro ⟨named, unique⟩
    obtain ⟨first, others⟩ := List.pairwise_cons.mp unique
    exact ⟨named _ List.mem_cons_self, first, fun member mem => named _ (.tail _ mem), others⟩
  · rintro ⟨first, apart, named, unique⟩
    exact ⟨List.forall_mem_cons.mpr ⟨first, named⟩, .cons apart unique⟩

theorem MembersChecked.perm {keys : List String} {members members' : List (Json × Json)}
    (checked : MembersChecked keys members) (perm : members.Perm members') :
    MembersChecked keys members' := by
  refine ⟨fun member mem => checked.named member (perm.mem_iff.mpr mem), ?_⟩
  refine (perm.pairwise_iff fun apart key mem here there => ?_).mp checked.unique
  exact apart key mem there here

/-- The check goes on until it meets a member that is out of order or given before. -/
theorem checkMembers_eq_ok_iff {keys : List String} {members : List (Json × Json)} {place : Nat}
    {seen : List String} :
    checkMembers keys place seen members = .ok () ↔
      MembersChecked keys members ∧
        ∀ member ∈ members, ∀ key ∈ seen, key ∈ keys → member.1 ≠ .text key := by
  induction members generalizing place seen with
  | nil => simp [checkMembers, membersChecked_nil]
  | cons member members ih =>
    obtain ⟨key, value⟩ := member
    rw [membersChecked_cons]
    unfold checkMembers
    split
    case h_2 unnamed =>
      have : ∀ name, key ≠ .text name := fun name same => unnamed name same
      simp [this]
    case h_1 name =>
      change _ ↔ ((∃ name', Json.text name = .text name' ∧ _) ∧ (∀ member' ∈ members, ∀ key ∈ keys,
        Json.text name = .text key → _) ∧ _) ∧ ∀ member ∈ (Json.text name, value) :: members, _
      simp only [List.forall_mem_cons, ne_eq, text_inj]
      split_ifs with known repeated formed
      · simp only [false_iff]
        exact fun passed => passed.2.1 name repeated known rfl
      · rw [ih]
        constructor
        · rintro ⟨checked, fresh⟩
          refine ⟨⟨⟨name, rfl, .inl known⟩, ?_, checked⟩, ?_, ?_⟩
          · rintro member mem key known rfl
            exact fresh member mem _ List.mem_cons_self known
          · rintro key mem known rfl
            exact repeated mem
          · exact fun member mem key old => fresh member mem key (.tail _ old)
        · rintro ⟨⟨-, apart, checked⟩, -, fresh⟩
          refine ⟨checked, fun member mem key old known => ?_⟩
          rcases List.mem_cons.mp old with rfl | old
          · exact apart member mem _ known rfl
          · exact fresh member mem key old known
      · rw [ih]
        constructor
        · rintro ⟨checked, fresh⟩
          refine ⟨⟨⟨name, rfl, .inr formed⟩, ?_, checked⟩, ?_, fresh⟩
          · rintro member mem key known' rfl
            exact absurd known' known
          · rintro key mem known' rfl
            exact known known'
        · rintro ⟨⟨-, -, checked⟩, -, fresh⟩
          exact ⟨checked, fresh⟩
      · simp [known, formed]

section Value

variable (schema : Schema) (depth : Nat)

theorem value?_members_cons (member : Json × Json) (members : List (Json × Json)) (key : String) :
    Fields.value? ⟨schema, depth, .members (member :: members)⟩ key =
      if isKey key member.1 then some member.2
      else Fields.value? ⟨schema, depth, .members members⟩ key := by
  unfold Fields.value? Fields.find?
  simp only [List.findIdx?_cons]
  split
  · rfl
  · cases members.findIdx? (isKey key ·.1) with
    | none => rfl
    | some place => simp [Function.comp_def]

theorem value?_text_cons (name key : String) (value : Json) (members : List (Json × Json)) :
    Fields.value? ⟨schema, depth, .members ((.text name, value) :: members)⟩ key =
      if name = key then some value else Fields.value? ⟨schema, depth, .members members⟩ key := by
  rw [value?_members_cons]
  by_cases same : name = key
  · simp [same, isKey_eq_true_iff]
  · simp [same, isKey_eq_true_iff, text_inj]

theorem value?_members_eq_none {members : List (Json × Json)} {key : String}
    (absent : ∀ member ∈ members, member.1 ≠ .text key) :
    Fields.value? ⟨schema, depth, .members members⟩ key = none := by
  induction members with
  | nil => rfl
  | cons member members ih =>
    obtain ⟨here, others⟩ := List.forall_mem_cons.mp absent
    rw [value?_members_cons, if_neg (mt isKey_eq_true_iff.mp here)]
    exact ih others

/-- The value of a field is the one that stands at its key. -/
theorem value?_members_eq_some_iff {members : List (Json × Json)}
    (checked : MembersChecked schema.keys members) {key : String} (known : key ∈ schema.keys)
    {value : Json} :
    Fields.value? ⟨schema, depth, .members members⟩ key = some value ↔
      (.text key, value) ∈ members := by
  induction members with
  | nil => simp [Fields.value?, Fields.find?]
  | cons member members ih =>
    obtain ⟨-, apart, rest⟩ := membersChecked_cons.mp checked
    obtain ⟨name, value'⟩ := member
    rw [value?_members_cons, List.mem_cons]
    split
    case isTrue here =>
      obtain rfl : name = .text key := isKey_eq_true_iff.mp here
      have absent : (.text key, value) ∉ members := fun mem => apart _ mem key known rfl rfl
      simp [absent, eq_comm]
    case isFalse elsewhere =>
      have other : Json.text key ≠ name := fun same => elsewhere (isKey_eq_true_iff.mpr same.symm)
      simp [ih rest, other]

theorem value?_items (items : List Json) (key : String) :
    Fields.value? ⟨schema, depth, .items items⟩ key = items[schema.keys.idxOf key]? := by
  simp [Fields.value?, Fields.find?, Function.comp_def]

end Value

/-! ## Records -/

variable {schema : Schema} {build : Fields → Ranked α} {depth : Nat} {a : α}

theorem record_object_eq_ok_iff {members : List (Json × Json)} :
    record schema build (depth + 1) (.object members) = .ok a ↔
      MembersChecked schema.keys members ∧ build ⟨schema, depth, .members members⟩ = .ok a := by
  have check : (∃ u, checkMembers schema.keys 0 [] members = .ok u) ↔
      MembersChecked schema.keys members := by
    constructor
    · rintro ⟨⟨⟩, passed⟩
      exact (checkMembers_eq_ok_iff.mp passed).1
    · exact fun checked => ⟨(), checkMembers_eq_ok_iff.mpr ⟨checked, by simp⟩⟩
  rw [record, Ranked.toExcept_eq_ok_iff, Ranked.seqLeft_eq_ok_iff, check, and_comm]

theorem record_array_eq_ok_iff {items : List Json} :
    record schema build (depth + 1) (.array items) = .ok a ↔
      items.length ≤ schema.keys.length ∧ build ⟨schema, depth, .items items⟩ = .ok a := by
  have check : (∃ u, checkItems schema.keys items = .ok u) ↔
      items.length ≤ schema.keys.length := by
    unfold checkItems
    split <;> simp_all
  rw [record, Ranked.toExcept_eq_ok_iff, Ranked.seqLeft_eq_ok_iff, check, and_comm]

/-! ## Values in containers -/

theorem readItems_cons_eq_ok_iff {read : Json → Except ReadError α} {item : Json}
    {items : List Json} {as : List α} :
    readItems read (item :: items) = .ok as ↔
      ∃ a others, read item = .ok a ∧ readItems read items = .ok others ∧ a :: others = as := by
  cases first : read item <;> cases others : readItems read items <;>
    simp [readItems, first, others, bind, Except.bind, pure, Except.pure]

theorem nullable_eq_ok_iff {decode : Decoder α} {value : Json} {a : Option α}
    (present : value ≠ .null) :
    nullable decode depth value = .ok a ↔ ∃ b, decode depth value = .ok b ∧ some b = a := by
  unfold nullable
  split
  · exact absurd rfl present
  · cases decode depth value <;> simp [Except.map]

end FluentGen.Snapshot
