import FluentGen.Decimal.Floating
import FluentGen.Text.Blank
import FluentGen.Text.Integer
import FluentGen.Text.Literal
import FluentGen.Text.Utf8
/-!
# Values of settings

A setting is a text or a flag. The text of an environment variable has no quotes that would tell
them apart, so its form decides: words for truth values are flags, quoted texts are texts, and what
has the form of a number, a list or a table is none of both. All that has no such form is a text as
it stands.

## Main definitions
* `SettingValue`, `Assignments`: values, and which settings they are given to.
* `SettingValue.ofText`: the value that the form of a text stands for.
-/
namespace FluentGen

/-- A value given to a setting. -/
inductive SettingValue where
  | text (value : String)
  | flag (value : Bool)
  /-- A number, a list or a table. -/
  | other
  deriving DecidableEq, Repr

/-- The values given to settings; what is given later counts. -/
abbrev Assignments := List (String × SettingValue)

/-- The value given to a setting last. -/
def Assignments.value? (assignments : Assignments) (key : String) : Option SettingValue :=
  assignments.reverse.lookup key

namespace SettingValue

/-- Whether a text is a number that fits a word of 64 bits, signed or not. -/
def isInteger (input : List Char) : Bool :=
  (Text.word? input).isSome || (Text.negativeWord? input).isSome

/-- Whether a text is a number with a point, and perhaps an exponent. -/
def isDecimal (input : List Char) : Bool :=
  input.contains '.' && (Decimal.ofText? (Decimal.splitSign input).2).isSome

/-- Whether a character is an ASCII blank. -/
def isSpace (c : Char) : Bool :=
  c == ' ' || c == '\t' || c == '\n' || c == '\x0C' || c == '\r'

/-- Whether a character ends a value without quotes. -/
def isSeparator (c : Char) : Bool :=
  c == ',' || c == '[' || c == ']' || c == '{' || c == '}'

/-- The value of a text without quotes. -/
def ofPlain (input : List Char) : SettingValue :=
  let plain := Text.trim (String.ofList input)
  if isInteger plain.toList || isDecimal plain.toList then .other else .text plain

/-- Reads a text after its opening double quote, and returns it with what follows the closing one.
Of the characters before the first escape only as many bytes are kept as there are characters, so
texts with characters beyond ASCII lose their end there. No such text can be read if a character
would be cut in two. -/
def readQuoted (input : List Char) : Option (List Char × List Char) := do
  let (found, after) ← Text.readLiteral input
  let count := (input.takeWhile fun c => c != '"' && c != '\\').length
  if input[count]? == some '\\' then
    let (kept, _) ← Text.splitAtByte? count found
    return (kept ++ found.drop count, after)
  else return (found, after)

/-- Reads a key of a table, and returns what follows it. -/
def readKey (input : List Char) : Option (List Char) :=
  match input with
  | '"' :: rest => (readQuoted rest).map (·.2)
  | _ =>
    let rest := input.dropWhile fun c => c.isAlphanum || c == '_' || c == '-'
    if rest.length < input.length then some rest else none

mutual
/-- Reads a value and the blanks around it. The bound is on the number of nested calls; twice the
length of the text is always enough. -/
def readValue : Nat → List Char → Option (SettingValue × List Char)
  | 0, _ => none
  | bound + 1, input =>
    let result : Option (SettingValue × List Char) :=
      match input.dropWhile isSpace with
      | 't' :: 'r' :: 'u' :: 'e' :: rest => some (.flag true, rest)
      | 'f' :: 'a' :: 'l' :: 's' :: 'e' :: rest => some (.flag false, rest)
      | '[' :: rest => (readItems bound rest).map ((.other, ·))
      | '{' :: rest => (readMembers bound rest).map ((.other, ·))
      | '"' :: rest => (readQuoted rest).map fun (found, after) =>
          (.text (String.ofList found), after)
      | '\'' :: c :: '\'' :: rest => some (.text (String.singleton c), rest)
      | '\'' :: _ => none
      | plain =>
        some (ofPlain (plain.takeWhile (!isSeparator ·)), plain.dropWhile (!isSeparator ·))
    result.map fun (value, rest) => (value, rest.dropWhile isSpace)
/-- Reads the items of a list up to its closing bracket, and returns what follows it. -/
def readItems : Nat → List Char → Option (List Char)
  | 0, _ => none
  | _ + 1, ']' :: rest => some rest
  | bound + 1, input =>
    match readValue bound input with
    | some (_, ',' :: rest) => readItems bound rest
    | some (_, ']' :: rest) => some rest
    | _ => none
/-- Reads the members of a table up to its closing brace, and returns what follows it. -/
def readMembers : Nat → List Char → Option (List Char)
  | 0, _ => none
  | _ + 1, '}' :: rest => some rest
  | bound + 1, input =>
    match (readKey (input.dropWhile isSpace)).map (·.dropWhile isSpace) with
    | some ('=' :: rest) =>
      match readValue bound rest with
      | some (_, ',' :: rest) => readMembers bound rest
      | some (_, '}' :: rest) => some rest
      | _ => none
    | _ => none
end

/-- The value that a whole text stands for. -/
def ofText (input : String) : SettingValue :=
  match readValue (2 * input.length + 2) input.toList with
  | some (value, []) => value
  | _ => .text input

example : ofText " true " = .flag true := by decide
example : ofText "trueish" = .text "trueish" := by decide
example : ofText " a b " = .text "a b" := by decide +kernel
example : ofText " a,b " = .text " a,b " := by decide +kernel
example : ["-12", "1.5e3", "[1, \x7ba = b\x7d]"].all (ofText · = .other) := by decide +kernel
example : ofText "\"a\\tb\"" = .text "a\tb" := by decide +kernel
example : ofText "\"éé\\tx\"" = .text "é\tx" ∧ ofText "\"éé\"" = .text "éé" := by decide +kernel

end SettingValue

end FluentGen
