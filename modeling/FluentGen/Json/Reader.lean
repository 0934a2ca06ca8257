import FluentGen.Json
/-!
# Reading JSON

Reads a text into a `Json` tree. The grammar is strict: no comments, no trailing commas, no control
characters in strings, no leading zeros. Reading never fails; it leaves `Json.malformed` where the
text breaks off from the grammar and reads nothing after that.

## Main definitions
* `Json.readString`, `Json.readNumber`: the tokens with an inner structure.
* `Json.readValue`: a value and the text after it.
* `Json.ofText`: a whole text, and whether anything but blanks follows the value.
* `Json.parse?`: the tree of a well-formed text.
-/
namespace FluentGen.Json

/-- The text after blanks. -/
def skipBlanks (text : List Char) : List Char :=
  text.dropWhile fun c => c == ' ' || c == '\n' || c == '\t' || c == '\r'

/-- One element of a string literal: a character, or an escaped surrogate code. -/
inductive StringUnit where
  | scalar (c : Char)
  | surrogate (code : Nat)
  deriving DecidableEq, Repr

/-- The value of a hexadecimal digit. -/
def hexValue? (c : Char) : Option Nat :=
  if '0' ≤ c && c ≤ '9' then some (c.toNat - '0'.toNat)
  else if 'a' ≤ c && c ≤ 'f' then some (c.toNat - 'a'.toNat + 10)
  else if 'A' ≤ c && c ≤ 'F' then some (c.toNat - 'A'.toNat + 10)
  else none

/-- The unit that four hexadecimal digits spell. -/
def hexUnit? (a b c d : Char) : Option StringUnit := do
  let code := (((← hexValue? a) * 16 + (← hexValue? b)) * 16 + (← hexValue? c)) * 16 + (← hexValue? d)
  return if 0xD800 ≤ code && code ≤ 0xDFFF then .surrogate code else .scalar (Char.ofNat code)

/-- The character that a backslash and `c` stand for. -/
def shortEscape? : Char → Option Char
  | '"' => some '"'
  | '\\' => some '\\'
  | '/' => some '/'
  | 'b' => some '\x08'
  | 'f' => some '\x0C'
  | 'n' => some '\n'
  | 'r' => some '\r'
  | 't' => some '\t'
  | _ => none

/-- Reads the units of a string literal after its opening quote, with the text after the closing
one. -/
def readUnits : List Char → Option (List StringUnit × List Char)
  | [] => none
  | '"' :: rest => some ([], rest)
  | '\\' :: 'u' :: a :: b :: c :: d :: rest =>
    (hexUnit? a b c d).bind fun unit =>
      (readUnits rest).map fun (units, after) => (unit :: units, after)
  | '\\' :: e :: rest =>
    (shortEscape? e).bind fun c =>
      (readUnits rest).map fun (units, after) => (.scalar c :: units, after)
  | c :: rest =>
    if c == '\\' || c.toNat < 0x20 then none
    else (readUnits rest).map fun (units, after) => (.scalar c :: units, after)

/-- Joins each high surrogate to the low one after it; fails on a surrogate without partner. -/
def joinSurrogates : List StringUnit → Option (List Char)
  | [] => some []
  | .scalar c :: units => (joinSurrogates units).map (c :: ·)
  | .surrogate high :: .surrogate low :: units =>
    if high < 0xDC00 && 0xDC00 ≤ low then
      (joinSurrogates units).map
        (Char.ofNat (0x10000 + (high - 0xD800) * 0x400 + (low - 0xDC00)) :: ·)
    else none
  | .surrogate _ :: _ => none

/-- Reads a string literal after its opening quote. -/
def readString (text : List Char) : Option (Json × List Char) :=
  (readUnits text).map fun (units, after) =>
    (.string ((joinSurrogates units).map String.ofList), after)

/-- Splits the digits off the front of a text. -/
def spanDigits (text : List Char) : List Char × List Char :=
  (text.takeWhile Char.isDigit, text.dropWhile Char.isDigit)

/-- Reads the integer part of a number: a zero, or digits that start with another one. -/
def readInteger (text : List Char) : Option (Nat × List Char) :=
  match spanDigits text with
  | ([], _) => none
  | (['0'], after) => some (0, after)
  | ('0' :: _, _) => none
  | (digits, after) => some (Nat.ofDigitChars 10 digits 0, after)

/-- Reads the point and the digits after it, if there is a point. -/
def readFraction (text : List Char) : Option (List Char × List Char) :=
  match text with
  | '.' :: rest =>
    match spanDigits rest with
    | ([], _) => none
    | (digits, after) => some (digits, after)
  | _ => some ([], text)

/-- Reads the digits of an exponent. -/
def readExponentDigits (negative : Bool) (text : List Char) : Option (Option Int × List Char) :=
  match spanDigits text with
  | ([], _) => none
  | (digits, after) =>
    let magnitude : Int := Nat.ofDigitChars 10 digits 0
    some (some (if negative then -magnitude else magnitude), after)

/-- Reads the exponent, if there is one. -/
def readExponent (text : List Char) : Option (Option Int × List Char) :=
  match text with
  | c :: rest =>
    if c == 'e' || c == 'E' then
      match rest with
      | '-' :: rest => readExponentDigits true rest
      | '+' :: rest => readExponentDigits false rest
      | _ => readExponentDigits false rest
    else some (none, text)
  | [] => some (none, text)

/-- Reads a number. -/
def readNumber (text : List Char) : Option (JsonNumber × List Char) := do
  let (negative, text) := match text with
    | '-' :: rest => (true, rest)
    | _ => (false, text)
  let (integer, text) ← readInteger text
  let (fraction, text) ← readFraction text
  let (exponent, text) ← readExponent text
  return (⟨negative, integer, fraction, exponent⟩, text)

mutual
/-- Reads a value, and returns it with the text after it. The bound is on the number of nested
calls; twice the length of the text is always enough. -/
def readValue : Nat → List Char → Json × List Char
  | 0, _ => (.malformed, [])
  | bound + 1, text =>
    match skipBlanks text with
    | 'n' :: 'u' :: 'l' :: 'l' :: rest => (.null, rest)
    | 't' :: 'r' :: 'u' :: 'e' :: rest => (.bool true, rest)
    | 'f' :: 'a' :: 'l' :: 's' :: 'e' :: rest => (.bool false, rest)
    | '"' :: rest => (readString rest).getD (.malformed, [])
    | '[' :: rest =>
      match skipBlanks rest with
      | ']' :: after => (.array [], after)
      | first =>
        let (items, after) := readItems bound first
        (.array items, after)
    | '{' :: rest =>
      match skipBlanks rest with
      | '}' :: after => (.object [], after)
      | first =>
        let (members, after) := readMembers bound first
        (.object members, after)
    | other =>
      match readNumber other with
      | some (value, after) => (.number value, after)
      | none => (.malformed, [])
/-- Reads the items of an array up to its closing bracket. -/
def readItems : Nat → List Char → List Json × List Char
  | 0, _ => ([.malformed], [])
  | bound + 1, text =>
    let (item, rest) := readValue bound text
    match skipBlanks rest with
    | ',' :: next =>
      let (items, after) := readItems bound next
      (item :: items, after)
    | ']' :: after => ([item], after)
    | _ => ([item, .malformed], [])
/-- Reads the members of an object up to its closing brace. -/
def readMembers : Nat → List Char → List (Json × Json) × List Char
  | 0, _ => ([(.malformed, .malformed)], [])
  | bound + 1, text =>
    let (key, rest) := readValue bound text
    match key.isString, skipBlanks rest with
    | true, ':' :: next =>
      let (value, rest) := readValue bound next
      match skipBlanks rest with
      | ',' :: next =>
        let (members, after) := readMembers bound next
        ((key, value) :: members, after)
      | '}' :: after => ([(key, value)], after)
      | _ => ([(key, value), (.malformed, .malformed)], [])
    | _, _ => ([(key, .malformed)], [])
end

/-- Reads a text, and tells whether only blanks follow the value. -/
def ofText (text : String) : Json × Bool :=
  let (value, rest) := readValue (2 * text.length + 2) text.toList
  (value, (skipBlanks rest).isEmpty)

/-- The tree of a text that is JSON from its first character to its last. -/
def parse? (text : String) : Option Json :=
  match ofText text with
  | (value, true) => if value.isWellFormed then some value else none
  | (_, false) => none

end FluentGen.Json
