import FluentGen.Json
/-!
# Writing JSON

Two layouts of the same tokens: on one line without blanks, or with one item or member on each
line, two blanks deeper than its container. Characters are written as they are, save for the
quote, the backslash and the control characters.

## Main definitions
* `Json.escapeChar`, `Json.printString`, `Json.printNumber`: the tokens.
* `Json.compact`: the layout on one line.
* `Json.pretty`: the layout on many lines.
-/
namespace FluentGen.Json

/-- How a string literal spells a character. -/
def escapeChar (c : Char) : List Char :=
  match c with
  | '"' => ['\\', '"']
  | '\\' => ['\\', '\\']
  | '\x08' => ['\\', 'b']
  | '\x0C' => ['\\', 'f']
  | '\n' => ['\\', 'n']
  | '\r' => ['\\', 'r']
  | '\t' => ['\\', 't']
  | c =>
    if c.toNat < 0x20 then
      ['\\', 'u', '0', '0', Nat.digitChar (c.toNat / 16), Nat.digitChar (c.toNat % 16)]
    else [c]

/-- The string literal of a text. -/
def printString (text : String) : String :=
  String.ofList ('"' :: text.toList.flatMap escapeChar ++ ['"'])

/-- The number as it is written. -/
def printNumber (number : JsonNumber) : String :=
  (if number.negative then "-" else "") ++ toString number.integer ++
    (if number.fraction.isEmpty then "" else "." ++ String.ofList number.fraction) ++
    (match number.exponent with
      | none => ""
      | some exponent => "e" ++ toString exponent)

/-- The text of a value that is no container; what is no JSON has no text. -/
def printScalar : Json → String
  | .null => "null"
  | .bool true => "true"
  | .bool false => "false"
  | .number value => printNumber value
  | .string (some text) => printString text
  | _ => ""

mutual
/-- The text on one line. -/
def compact : Json → String
  | .array [] => "[]"
  | .array (item :: items) => "[" ++ item.compact ++ compactItems items ++ "]"
  | .object [] => "\x7b\x7d"
  | .object ((key, value) :: members) =>
    "\x7b" ++ key.printScalar ++ ":" ++ value.compact ++ compactMembers members ++ "\x7d"
  | value => value.printScalar
/-- The items after the first. -/
def compactItems : List Json → String
  | [] => ""
  | item :: items => "," ++ item.compact ++ compactItems items
/-- The members after the first. -/
def compactMembers : List (Json × Json) → String
  | [] => ""
  | (key, value) :: members =>
    "," ++ key.printScalar ++ ":" ++ value.compact ++ compactMembers members
end

/-- A line break, and two blanks for each level of nesting. -/
def newLine (level : Nat) : String :=
  String.ofList ('\n' :: List.replicate (2 * level) ' ')

mutual
/-- The text on many lines, inside `level` containers. -/
def prettyAt (level : Nat) : Json → String
  | .array [] => "[]"
  | .array (item :: items) =>
    "[" ++ newLine (level + 1) ++ item.prettyAt (level + 1) ++ prettyItems (level + 1) items ++
      newLine level ++ "]"
  | .object [] => "\x7b\x7d"
  | .object ((key, value) :: members) =>
    "\x7b" ++ newLine (level + 1) ++ key.printScalar ++ ": " ++ value.prettyAt (level + 1) ++
      prettyMembers (level + 1) members ++ newLine level ++ "\x7d"
  | value => value.printScalar
/-- The items after the first. -/
def prettyItems (level : Nat) : List Json → String
  | [] => ""
  | item :: items => "," ++ newLine level ++ item.prettyAt level ++ prettyItems level items
/-- The members after the first. -/
def prettyMembers (level : Nat) : List (Json × Json) → String
  | [] => ""
  | (key, value) :: members =>
    "," ++ newLine level ++ key.printScalar ++ ": " ++ value.prettyAt level ++
      prettyMembers level members
end

/-- The text on many lines. -/
def pretty (value : Json) : String :=
  value.prettyAt 0

end FluentGen.Json
