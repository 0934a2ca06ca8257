/-!
# JSON documents

A JSON text as a tree that keeps the order of members, the spelling of numbers and the place where
the text stops being well-formed. A reader that walks the tree in document order thus meets the
problems of a text in the order of the text.

## Main definitions
* `JsonNumber`: a number as it is written.
* `Json`: a document or a part of one.
* `Json.isWellFormed`: no part of the text is malformed.
-/
namespace FluentGen

/-- A number as it is written: sign, integer part, digits after the point, exponent. -/
structure JsonNumber where
  negative : Bool
  integer : Nat
  /-- The digits after the point; there is no point when there are none. -/
  fraction : List Char := []
  exponent : Option Int := none
  deriving DecidableEq, Repr

/-- The number with the value `n`. -/
def JsonNumber.ofInt (n : Int) : JsonNumber :=
  { negative := n < 0, integer := n.natAbs }

/-- A part of a JSON text. -/
inductive Json where
  | null
  | bool (value : Bool)
  | number (value : JsonNumber)
  /-- A string; `none` when its escapes spell half of a surrogate pair. -/
  | string (text : Option String)
  | array (items : List Json)
  /-- An object; the text at the place of a key is read as a value, and only a string is a key. -/
  | object (members : List (Json × Json))
  /-- The place from which on the text is no JSON. -/
  | malformed
  deriving Repr, Inhabited

namespace Json

/-- The string `text`. -/
def text (text : String) : Json :=
  .string (some text)

/-- Whether the value is a string. -/
def isString : Json → Bool
  | .string _ => true
  | _ => false

mutual
/-- Whether the whole part is JSON, with strings for keys. -/
def isWellFormed : Json → Bool
  | .malformed => false
  | .array items => allWellFormed items
  | .object members => membersWellFormed members
  | _ => true
/-- Whether every item of an array is JSON. -/
def allWellFormed : List Json → Bool
  | [] => true
  | item :: items => item.isWellFormed && allWellFormed items
/-- Whether every member of an object is a string and a value. -/
def membersWellFormed : List (Json × Json) → Bool
  | [] => true
  | (key, value) :: members => key.isString && value.isWellFormed && membersWellFormed members
end

end Json

end FluentGen
