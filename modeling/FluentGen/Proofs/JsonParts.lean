import FluentGen.Json.NumberValue
import Mathlib.Data.List.Basic
/-!
# Documents and their parts

What a document has to do with the documents inside it: how deep containers nest, and when all of
it is JSON or can be kept for a second reading.

## Main definitions
* `Json.nesting`: how many containers nest in a document.

## Main statements
* `isWellFormed_of_isReadable`: what can be kept is JSON.
-/
namespace FluentGen.Json

mutual
/-- How many containers nest in a document. -/
def nesting : Json → Nat
  | .array items => nestingOfAll items + 1
  | .object members => nestingOfMembers members + 1
  | _ => 0
/-- The largest nesting of an item. -/
def nestingOfAll : List Json → Nat
  | [] => 0
  | item :: items => max item.nesting (nestingOfAll items)
/-- The largest nesting of a key or a value. -/
def nestingOfMembers : List (Json × Json) → Nat
  | [] => 0
  | (key, value) :: members => max (max key.nesting value.nesting) (nestingOfMembers members)
end

variable {items : List Json} {members : List (Json × Json)} {depth : Nat}

theorem nesting_array_le_iff :
    (Json.array items).nesting ≤ depth + 1 ↔ ∀ item ∈ items, item.nesting ≤ depth := by
  rw [nesting, Nat.add_le_add_iff_right]
  induction items with
  | nil => simp [nestingOfAll]
  | cons item items ih => rw [nestingOfAll, Nat.max_le, ih, List.forall_mem_cons]

theorem nesting_object_le_iff :
    (Json.object members).nesting ≤ depth + 1 ↔
      ∀ member ∈ members, member.1.nesting ≤ depth ∧ member.2.nesting ≤ depth := by
  rw [nesting, Nat.add_le_add_iff_right]
  induction members with
  | nil => simp [nestingOfMembers]
  | cons member members ih =>
    rw [nestingOfMembers, Nat.max_le, Nat.max_le, ih, List.forall_mem_cons]

theorem isWellFormed_array_iff :
    (Json.array items).isWellFormed ↔ ∀ item ∈ items, item.isWellFormed := by
  rw [isWellFormed]
  induction items with
  | nil => simp [allWellFormed]
  | cons item items ih => simp [allWellFormed, ih]

theorem isWellFormed_object_iff :
    (Json.object members).isWellFormed ↔
      ∀ member ∈ members, member.1.isString ∧ member.2.isWellFormed := by
  rw [isWellFormed]
  induction members with
  | nil => simp [membersWellFormed]
  | cons member members ih =>
    rw [membersWellFormed, Bool.and_eq_true, Bool.and_eq_true, ih, List.forall_mem_cons]

theorem isReadable_array_iff :
    (Json.array items).isReadable (depth + 1) ↔ ∀ item ∈ items, item.isReadable depth := by
  have unfolded : (Json.array items).isReadable (depth + 1) = allReadable depth items := by
    simp [isReadable]
  rw [unfolded]
  clear unfolded
  induction items with
  | nil => simp [allReadable]
  | cons item items ih => simp [allReadable, ih]

theorem isReadable_object_iff :
    (Json.object members).isReadable (depth + 1) ↔
      ∀ member ∈ members,
        member.1.isString ∧ member.1.isReadable depth ∧ member.2.isReadable depth := by
  have unfolded : (Json.object members).isReadable (depth + 1) = membersReadable depth members := by
    simp [isReadable]
  rw [unfolded]
  clear unfolded
  induction members with
  | nil => simp [membersReadable]
  | cons member members ih =>
    simp only [membersReadable, Bool.and_eq_true, ih, List.forall_mem_cons, and_assoc]

/-- What can be kept for a second reading is JSON. -/
theorem isWellFormed_of_isReadable {value : Json} (h : value.isReadable depth) :
    value.isWellFormed := by
  induction depth generalizing value with
  | zero => cases value <;> simp_all [isReadable, isWellFormed]
  | succ depth ih =>
    cases value with
    | array items =>
      rw [isReadable_array_iff] at h
      exact isWellFormed_array_iff.mpr fun item mem => ih (h item mem)
    | object members =>
      rw [isReadable_object_iff] at h
      refine isWellFormed_object_iff.mpr fun member mem => ?_
      obtain ⟨isString, -, readable⟩ := h member mem
      exact ⟨isString, ih readable⟩
    | malformed => simp [isReadable] at h
    | null | bool | number | string => rfl

end FluentGen.Json
