import FluentGen.Snapshot.ReadError
/-!
# Reading records

A record is written as an object with a member for each field, in any order and next to members
that are skipped, or as an array of its fields in their order. Each field is read on its own, and a
failure remembers where in the document it shows; of several failures the first one in the
document is reported.

## Main definitions
* `Decoder`: reads a value within a nesting limit.
* `Ranked`: a reading that fails at a place; readings combine as an applicative functor.
* `Schema`: the name and the keys of a record.
* `Fields`: the parts of one record, with `required` and `optional` fields.
* `record`: the decoder of a record.
* `text`, `flag`, `word`, `listOf`, `nullable`, `enumeration`: decoders of other values.
-/
namespace FluentGen.Snapshot

/-- Reads a value; the number is how many containers may nest around and inside it. -/
abbrev Decoder (α : Type) := Nat → Json → Except ReadError α

/-- A value, or a failure with the place in the document at which it shows. -/
inductive Ranked (α : Type) where
  | ok (value : α)
  | failed (place : Nat) (error : ReadError)

namespace Ranked

/-- The outcome without the place. -/
def toExcept {α : Type} : Ranked α → Except ReadError α
  | .ok value => .ok value
  | .failed _ error => .error error

/-- Gives an outcome a place. -/
def atPlace {α : Type} (place : Nat) : Except ReadError α → Ranked α
  | .ok value => .ok value
  | .error error => .failed place error

/-- Applies one reading to another; of two failures the one at the earlier place is kept. -/
def apply {α β : Type} : Ranked (α → β) → Ranked α → Ranked β
  | .ok f, .ok value => .ok (f value)
  | .ok _, .failed place error => .failed place error
  | .failed place error, .ok _ => .failed place error
  | .failed place error, .failed place' error' =>
    if place ≤ place' then .failed place error else .failed place' error'

instance : Applicative Ranked where
  pure := .ok
  seq f x := f.apply (x ())

end Ranked

/-- The name of a record and the keys of its fields, in order. -/
structure Schema where
  name : String
  keys : List String
  deriving Repr

/-- The parts of one record. -/
inductive Parts where
  | members (members : List (Json × Json))
  | items (items : List Json)

/-- A record under its schema, with the nesting limit for its fields. -/
structure Fields where
  schema : Schema
  depth : Nat
  parts : Parts

/-- Whether `key` is the string `name`. -/
def isKey (name : String) (key : Json) : Bool :=
  match key with
  | .string (some text) => text == name
  | _ => false

namespace Fields

/-- The value of a field, with its place in the record. -/
def find? (fields : Fields) (key : String) : Option (Nat × Json) :=
  match fields.parts with
  | .members members =>
    (members.findIdx? fun member => isKey key member.1).bind fun place =>
      members[place]?.map fun member => (place, member.2)
  | .items items =>
    let place := fields.schema.keys.idxOf key
    items[place]?.map fun item => (place, item)

/-- The failure for a required field that is absent. In an object it shows behind all members. -/
def missing {α : Type} (fields : Fields) (key : String) : Ranked α :=
  let place := fields.schema.keys.idxOf key
  match fields.parts with
  | .members members => .failed (members.length + place) (.mismatch (.missingField key))
  | .items _ =>
    .failed place (.mismatch (.invalidLength place fields.schema.name fields.schema.keys.length))

/-- Reads a field that has to be there. -/
def required {α : Type} (fields : Fields) (key : String) (decode : Decoder α) : Ranked α :=
  match fields.find? key with
  | some (place, value) => .atPlace place (decode fields.depth value)
  | none => fields.missing key

/-- Reads a field that has a default. -/
def optional {α : Type} (fields : Fields) (key : String) (decode : Decoder α) (default : α) :
    Ranked α :=
  match fields.find? key with
  | some (place, value) => .atPlace place (decode fields.depth value)
  | none => .ok default

end Fields

/-- Checks the members from `place` on: keys are strings, those of fields occur once, and the
values of other keys are well-formed. -/
def checkMembers (keys : List String) : Nat → List String → List (Json × Json) → Ranked Unit
  | _, _, [] => .ok ()
  | place, seen, (key, value) :: members =>
    match key with
    | .string (some name) =>
      if name ∈ keys then
        if name ∈ seen then .failed place (.mismatch (.duplicateField name))
        else checkMembers keys (place + 1) (name :: seen) members
      else if value.isWellFormed then checkMembers keys (place + 1) seen members
      else .failed place .malformed
    | _ => .failed place .malformed

/-- Checks that an array holds no more items than the record has fields. -/
def checkItems (keys : List String) (items : List Json) : Ranked Unit :=
  if items.length ≤ keys.length then .ok () else .failed keys.length .malformed

/-- Reads a record; `build` reads its fields. -/
def record {α : Type} (schema : Schema) (build : Fields → Ranked α) : Decoder α :=
  fun depth value =>
    match value, depth with
    | .object _, 0 => .error .malformed
    | .array _, 0 => .error .malformed
    | .object members, depth + 1 =>
      (build ⟨schema, depth, .members members⟩ <* checkMembers schema.keys 0 [] members).toExcept
    | .array items, depth + 1 =>
      (build ⟨schema, depth, .items items⟩ <* checkItems schema.keys items).toExcept
    | other, _ => .error (.unexpected other ("struct " ++ schema.name))

/-- Reads a string. -/
def text : Decoder String := fun _ value =>
  match value with
  | .string (some text) => .ok text
  | other => .error (.unexpected other "a string")

/-- Reads a Boolean. -/
def flag : Decoder Bool := fun _ value =>
  match value with
  | .bool value => .ok value
  | other => .error (.unexpected other "a boolean")

/-- Reads an unsigned 32-bit word. -/
def word : Decoder UInt32 := fun _ value =>
  match value with
  | .number number =>
    match number.value? with
    | some (.integer n) =>
      if 0 ≤ n ∧ n < UInt32.size then .ok (UInt32.ofNat n.toNat)
      else .error (.mismatch (.invalidValue (.integer n) "u32"))
    | _ => .error (.unexpected value "u32")
  | other => .error (.unexpected other "u32")

/-- Reads the items of an array, the first failure in order. -/
def readItems {α : Type} (decode : Json → Except ReadError α) : List Json → Except ReadError (List α)
  | [] => .ok []
  | item :: items => do
    let first ← decode item
    let others ← readItems decode items
    return first :: others

/-- Reads an array. -/
def listOf {α : Type} (decode : Decoder α) : Decoder (List α) := fun depth value =>
  match value, depth with
  | .array _, 0 => .error .malformed
  | .array items, depth + 1 => readItems (decode depth) items
  | other, _ => .error (.unexpected other "a sequence")

/-- Reads a value that may be `null`. -/
def nullable {α : Type} (decode : Decoder α) : Decoder (Option α) := fun depth value =>
  match value with
  | .null => .ok none
  | other => (decode depth other).map some

/-- Reads one of several names. The name may also be the only key of an object, over `null`. -/
def enumeration {α : Type} (name : α → String) (all : List α) : Decoder α := fun depth value =>
  let variant (text : String) : Except ReadError α :=
    match all.find? fun item => name item == text with
    | some item => .ok item
    | none => .error (.mismatch (.unknownVariant text (all.map name)))
  match value, depth with
  | .string (some text), _ => variant text
  | .object ((.string (some text), value) :: members), _ + 1 => do
    let item ← variant text
    match value, members with
    | .null, [] => return item
    | .null, _ => .error .malformed
    | other, _ => .error (.unexpected other "unit")
  | _, _ => .error .malformed

end FluentGen.Snapshot
