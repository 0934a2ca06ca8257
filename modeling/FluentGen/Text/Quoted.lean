import FluentGen.Text.Unprintable
/-!
# Quoted text

A text between double quotes on one line, as messages show the values they complain about.

## Main definitions
* `escape`: the spelling of one character.
* `quote`: the quoted text.
-/
namespace FluentGen.Text

/-- The lower-case hexadecimal digits of a code point. -/
def hexDigits (c : Char) : List Char :=
  Nat.toDigits 16 c.toNat

/-- How a quoted text spells `c`: itself, a short escape, or its code point in braces. -/
def escape (c : Char) : List Char :=
  match c with
  | '\x00' => ['\\', '0']
  | '\t' => ['\\', 't']
  | '\n' => ['\\', 'n']
  | '\r' => ['\\', 'r']
  | '"' => ['\\', '"']
  | '\\' => ['\\', '\\']
  | c => if isUnprintable c then ['\\', 'u', '{'] ++ hexDigits c ++ ['}'] else [c]

/-- `text` in double quotes, with every character spelled by `escape`. -/
def quote (text : String) : String :=
  String.ofList ('"' :: text.toList.flatMap escape ++ ['"'])

example : quote "a\"\x07é'" = "\"a\\\"\\u\x7b7\x7dé'\"" := by decide +kernel

end FluentGen.Text
