import FluentGen.Json.NumberValue
import FluentGen.Text.Quoted
/-!
# Why a snapshot is refused

Either the text is no JSON where the reader has to look at it, or a value does not have the shape
that its place asks for.

## Main definitions
* `Found`: the value met in the place of another.
* `Mismatch`: a value of the wrong shape, with its message.
* `ReadError`: both kinds of refusal.
-/
namespace FluentGen

/-- A value as a message names it. -/
inductive Found where
  | null
  | boolean (value : Bool)
  | integer (value : Int)
  | floating (negative : Bool) (magnitude : Binary64)
  | string (text : String)
  | sequence
  | map
  deriving DecidableEq, Repr

/-- The words for a value that was found. -/
def Found.describe : Found → String
  | .null => "null"
  | .boolean value => "boolean `" ++ toString value ++ "`"
  | .integer value => "integer `" ++ toString value ++ "`"
  | .floating negative magnitude =>
    "floating point `" ++ (if negative then "-" else "") ++ magnitude.display ++ "`"
  | .string text => "string " ++ Text.quote text
  | .sequence => "sequence"
  | .map => "map"

/-- A value of the wrong shape. -/
inductive Mismatch where
  | invalidType (found : Found) (expected : String)
  | invalidValue (found : Found) (expected : String)
  /-- An array of fields that ends before a required field. -/
  | invalidLength (length : Nat) (record : String) (fields : Nat)
  | missingField (key : String)
  | duplicateField (key : String)
  | unknownVariant (name : String) (known : List String)
  /-- A value that fits none of the alternatives of a union. -/
  | noVariant (union : String)
  deriving DecidableEq, Repr

/-- The text of a mismatch. -/
def Mismatch.message : Mismatch → String
  | .invalidType found expected => "invalid type: " ++ found.describe ++ ", expected " ++ expected
  | .invalidValue found expected => "invalid value: " ++ found.describe ++ ", expected " ++ expected
  | .invalidLength length record fields =>
    "invalid length " ++ toString length ++ ", expected struct " ++ record ++ " with " ++
      toString fields ++ " elements"
  | .missingField key => "missing field `" ++ key ++ "`"
  | .duplicateField key => "duplicate field `" ++ key ++ "`"
  | .unknownVariant name known =>
    "unknown variant `" ++ name ++ "`, expected one of " ++
      ", ".intercalate (known.map fun variant => "`" ++ variant ++ "`")
  | .noVariant union => "data did not match any variant of untagged enum " ++ union

/-- Why a snapshot is refused. -/
inductive ReadError where
  /-- The text is no JSON. -/
  | malformed
  | mismatch (cause : Mismatch)
  deriving DecidableEq, Repr

/-- The refusal of a value where something else is expected. A value that cannot be read itself
counts as malformed. -/
def ReadError.unexpected (value : Json) (expected : String) : ReadError :=
  let found? : Option Found := match value with
    | .null => some .null
    | .bool value => some (.boolean value)
    | .number value => value.value?.map fun
      | .integer value => .integer value
      | .floating negative magnitude => .floating negative magnitude
    | .string text => text.map .string
    | .array _ => some .sequence
    | .object _ => some .map
    | .malformed => none
  match found? with
  | some found => .mismatch (.invalidType found expected)
  | none => .malformed

end FluentGen
