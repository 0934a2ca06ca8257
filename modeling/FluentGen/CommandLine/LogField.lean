import FluentGen.Decimal.Floating
import FluentGen.Text.Integer
import FluentGen.Text.Pattern
/-!
# Fields of the log

A filter of the log may ask for a field of a span, and for its value. The form of the value decides
what it is compared as: a flag, a number, or else a pattern for the text of the field.

## Main definitions
* `LogValue`, `LogField`: values and fields.
* `LogValue.ofText?`, `LogField.ofText?`: reading.
* `LogValue.display`, `LogField.display`: the text; numbers are written in one way only.
* `LogValue.order`, `LogField.order`: the order in which a filter keeps them.
-/
namespace FluentGen

/-- A value that a field has to have. -/
inductive LogValue where
  | flag (value : Bool)
  | floating (value : Floating)
  /-- What no number is equal to. -/
  | notNumber
  | natural (value : Nat)
  | integer (value : Int)
  | pattern (text : String)
  deriving DecidableEq, Repr

namespace LogValue

/-- Reads a value. Integers that fit no word of 64 bits are floating. There is no value for a text
that would be a pattern and is none. -/
def ofText? (text : String) : Option LogValue :=
  let characters := text.toList
  if text == "true" then some (.flag true)
  else if text == "false" then some (.flag false)
  else if let some value := Text.word? characters then some (.natural value)
  else if let some value := Text.negativeWord? characters then some (.integer (-value))
  else if (String.ofList (Decimal.splitSign characters).2).toLower == "nan" then some .notNumber
  else if let some value := Floating.ofText? characters then some (.floating value)
  else if isPattern text then some (.pattern text)
  else none

/-- The text of a value. -/
def display : LogValue → String
  | .flag value => if value then "true" else "false"
  | .floating value => value.display
  | .notNumber => "NaN"
  | .natural value => String.ofList (Nat.toDigits 10 value)
  | .integer value =>
    (if value < 0 then "-" else "") ++ String.ofList (Nat.toDigits 10 value.natAbs)
  | .pattern text => text

/-- The place of the kind of a value among the kinds. -/
def rank : LogValue → Nat
  | .flag _ => 0
  | .floating _ => 1
  | .notNumber => 2
  | .natural _ => 3
  | .integer _ => 4
  | .pattern _ => 5

/-- Which of two values comes later. The kinds decide first. -/
def order : LogValue → LogValue → Ordering
  | .flag left, .flag right => compare left right
  | .floating left, .floating right => left.order right
  | .natural left, .natural right => compare left right
  | .integer left, .integer right => compare left right
  | .pattern left, .pattern right => compare left right
  | left, right => compare left.rank right.rank

example : (["+7", "-0", "1e3", "nan", "a.b"].map fun text => (ofText? text).map display) =
    ["7", "0", "1000", "NaN", "a.b"].map some := by decide +kernel
example : ofText? "*" = none := by decide +kernel

end LogValue

/-- A field that a span has to have, perhaps with a value. -/
structure LogField where
  name : String
  value : Option LogValue := none
  deriving DecidableEq, Repr

namespace LogField

/-- Reads a field. What follows a second equals sign does not count. -/
def ofText? (text : List Char) : Option LogField :=
  match (text.splitOn '=').map String.ofList with
  | name :: value :: _ => (LogValue.ofText? value).map fun value => { name, value := some value }
  | parts => some { name := parts.headD "" }

/-- The text of a field. -/
def display (field : LogField) : String :=
  field.name ++ field.value.elim "" ("=" ++ ·.display)

/-- Fields with a value are greater than those without, then names and values decide. -/
def order (left right : LogField) : Ordering :=
  (compare left.value.isSome right.value.isSome).then <|
    (compare left.name right.name).then <|
    match left.value, right.value with
    | some left, some right => left.order right
    | _, _ => .eq

end LogField

end FluentGen
