import FluentGen.Decimal.Shortest
import FluentGen.Json
/-!
# The values of JSON numbers

A number written without point and exponent is an integer if a 64-bit word holds it, signed or
not. Every other number is a floating-point number, and so is minus zero. Its significand is
made of the digits that fit a 64-bit word; in the integer part and in the fraction alike, the first
digit that does not fit is dropped with those after it.

## Main definitions
* `NumberValue`: an integer or a floating-point number.
* `JsonNumber.value?`: the value of a number, unless it is too large for both.
* `Json.isReadable`: whether all parts of a document have values, within a nesting limit.
-/
namespace FluentGen

/-- The value of a number. -/
inductive NumberValue where
  | integer (value : Int)
  | floating (negative : Bool) (magnitude : Binary64)
  deriving DecidableEq, Repr

/-- Appends digits to a significand while it stays below `2 ^ 64`, and returns it with the digits
that are left. -/
def appendDigits (significand : Nat) : List Char → Nat × List Char
  | [] => (significand, [])
  | digit :: digits =>
    let next := 10 * significand + (digit.toNat - '0'.toNat)
    if next < UInt64.size then appendDigits next digits else (significand, digit :: digits)

namespace JsonNumber

/-- The magnitude as a floating-point number. -/
def magnitude? (number : JsonNumber) : Option Binary64 :=
  let (whole, dropped) := appendDigits 0 (Nat.toDigits 10 number.integer)
  let (significand, unused) := appendDigits whole number.fraction
  let kept := number.fraction.length - unused.length
  Binary64.ofDecimal? significand (dropped.length - kept + number.exponent.getD 0)

/-- The value as an integer, if it is written as one and a word holds it. -/
def integer? (number : JsonNumber) : Option Int :=
  if number.fraction.isEmpty && number.exponent.isNone then
    if number.negative then
      if 0 < number.integer && number.integer ≤ UInt64.size / 2 then some (-number.integer) else none
    else if number.integer < UInt64.size then some number.integer else none
  else none

/-- The value of the number. -/
def value? (number : JsonNumber) : Option NumberValue :=
  match number.integer? with
  | some value => some (.integer value)
  | none => number.magnitude?.map (.floating number.negative)

end JsonNumber

namespace Json

mutual
/-- Whether every string and number of a document has a value, every key is a string, nothing is
malformed and containers nest no deeper than `depth`. -/
def isReadable (depth : Nat) : Json → Bool
  | .null | .bool _ => true
  | .number value => value.value?.isSome
  | .string text => text.isSome
  | .array items => depth != 0 && allReadable (depth - 1) items
  | .object members => depth != 0 && membersReadable (depth - 1) members
  | .malformed => false
/-- Whether every item is readable. -/
def allReadable (depth : Nat) : List Json → Bool
  | [] => true
  | item :: items => item.isReadable depth && allReadable depth items
/-- Whether every member is readable and has a string for a key. -/
def membersReadable (depth : Nat) : List (Json × Json) → Bool
  | [] => true
  | (key, value) :: members =>
    key.isString && key.isReadable depth && value.isReadable depth && membersReadable depth members
end

end Json

end FluentGen
