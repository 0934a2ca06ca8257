import FluentGen.CommandLine.SettingValue
/-!
# Configuration files

A configuration file assigns values to settings in the notation of TOML. Values are texts in single
or double quotes, which span several lines when the quotes are tripled, truth values, and whole
numbers in several bases. What follows a hash is a comment. A key may have several parts between
points; then its first part stands for a table. Tables of their own, lists, dates and fractions are
not understood.

## Main definitions
* `ConfigurationFile.readEntry`, `ConfigurationFile.readEntries`: assignments with their whole keys.
* `ConfigurationFile.parse?`: the assignments of a whole file.
-/
namespace FluentGen.ConfigurationFile

open Decimal (splitSign)
open Text (readEscape readLiteral isPrintable)

/-- The content of a file: without the byte-order mark that may stand in front, and with a line feed
alone for every line break. -/
def content (text : List Char) : List Char :=
  match text with
  | '\uFEFF' :: rest => joinBreaks rest
  | _ => joinBreaks text
where
  /-- Drops the carriage returns of line breaks. -/
  joinBreaks : List Char → List Char
    | [] => []
    | '\r' :: '\n' :: rest => '\n' :: joinBreaks rest
    | c :: rest => c :: joinBreaks rest

/-- The text after blanks. -/
def skipBlanks (text : List Char) : List Char :=
  text.dropWhile fun c => c == ' ' || c == '\t'

/-- The text after a line of which nothing but blanks and a comment is left. -/
def readLineEnd (text : List Char) : Option (List Char) :=
  match skipBlanks text with
  | [] => some []
  | '\n' :: rest => some rest
  | '#' :: rest =>
    if (rest.takeWhile (· != '\n')).all isPrintable then some (rest.dropWhile (· != '\n')).tail
    else none
  | _ => none

/-- Reads a text after its opening single quote. It has no escapes. -/
def readRaw (text : List Char) : Option (List Char × List Char) :=
  let content := text.takeWhile (· != '\'')
  match text.dropWhile (· != '\'') with
  | _ :: after => if content.all isPrintable then some (content, after) else none
  | [] => none

/-- What is read at the three quotes that close a text: up to two more quotes belong to the text. -/
def closeBlock (quote : Char) (rest : List Char) : List Char × List Char :=
  let quotes := (rest.takeWhile (· == quote)).take 2
  (quotes, rest.drop quotes.length)

/-- Reads a text of several lines up to three single quotes. It has no escapes. -/
def readRawBlock : List Char → Option (List Char × List Char)
  | [] => none
  | '\'' :: '\'' :: '\'' :: rest => some (closeBlock '\'' rest)
  | c :: rest =>
    if c == '\n' || isPrintable c then
      (readRawBlock rest).map fun (text, after) => (c :: text, after)
    else none

/-- Reads a text of several lines up to three double quotes. A backslash at the end of a line takes
all blanks and line breaks behind it away. -/
def readBlock : List Char → Option (List Char × List Char)
  | [] => none
  | '"' :: '"' :: '"' :: rest => some (closeBlock '"' rest)
  | '\\' :: rest =>
    if (skipBlanks rest).head? == some '\n' then
      readBlock (rest.dropWhile fun c => c == ' ' || c == '\t' || c == '\n')
    else
      match _h : readEscape rest with
      | some found => (readBlock found.2).map fun (text, after) => (found.1 :: text, after)
      | none => none
  | c :: rest =>
    if c == '\n' || isPrintable c then
      (readBlock rest).map fun (text, after) => (c :: text, after)
    else none
termination_by text => text.length
decreasing_by
  · have := (List.dropWhile_sublist (l := rest)
      fun c => c == ' ' || c == '\t' || c == '\n').length_le
    simp only [List.length_cons]
    omega
  · have := Text.length_lt_of_readEscape _h
    simp only [List.length_cons]
    omega
  · simp only [List.length_cons]
    omega

/-- Reads a part of a key. -/
def readName (text : List Char) : Option (String × List Char) :=
  match text with
  | '"' :: rest => (readLiteral rest).map fun (key, after) => (String.ofList key, after)
  | '\'' :: rest => (readRaw rest).map fun (key, after) => (String.ofList key, after)
  | _ =>
    let isBare (c : Char) : Bool := c.isAlphanum || c == '_' || c == '-'
    let key := text.takeWhile isBare
    if key.isEmpty then none else some (String.ofList key, text.dropWhile isBare)

/-- Reads a key and the blanks behind it. The bound is on the number of its parts. -/
def readKey : Nat → List Char → Option (List String × List Char)
  | 0, _ => none
  | bound + 1, text => do
    let (name, rest) ← readName text
    match skipBlanks rest with
    | '.' :: rest =>
      let (names, rest) ← readKey bound (skipBlanks rest)
      return (name :: names, rest)
    | rest => return ([name], rest)

/-- The base of a number and its digits, given the text of the number without its sign. -/
def splitBase (text : List Char) : Nat × List Char :=
  match text with
  | '0' :: 'x' :: digits => (16, digits)
  | '0' :: 'o' :: digits => (8, digits)
  | '0' :: 'b' :: digits => (2, digits)
  | _ => (10, text)

/-- The number that digits in some base stand for. Single underscores may stand between digits. -/
def readDigits (base : Nat) (text : List Char) : Option Nat :=
  let groups := text.splitOn '_'
  if groups.any List.isEmpty then none
  else groups.flatten.foldlM
    (fun value digit => ((Json.hexValue? digit).filter (· < base)).map (base * value + ·)) 0

/-- Whether a text is a whole number that fits a signed word of 64 bits. A decimal number may have a
sign, and starts with a zero only if it is zero. -/
def isNumber (text : List Char) : Bool :=
  let (isNegative, unsigned) := splitSign text
  let (base, digits) := splitBase unsigned
  let isDecimal := base == 10
  let limit := if isNegative then UInt64.size / 2 + 1 else UInt64.size / 2
  (isDecimal || unsigned == text) &&
    (!isDecimal || digits.head? != some '0' || digits == ['0']) &&
    (readDigits base digits).any (· < limit)

/-- The text after a line break. -/
def skipBreak : List Char → List Char
  | '\n' :: rest => rest
  | text => text

/-- Reads the text that is the value of a setting. -/
def readText (text : List Char) : Option (List Char × List Char) :=
  match text with
  | '"' :: '"' :: '"' :: rest => readBlock (skipBreak rest)
  | '"' :: rest => readLiteral rest
  | '\'' :: '\'' :: '\'' :: rest => readRawBlock (skipBreak rest)
  | '\'' :: rest => readRaw rest
  | _ => none

/-- Reads the value of a setting. -/
def readValue (text : List Char) : Option (SettingValue × List Char) :=
  match text with
  | 't' :: 'r' :: 'u' :: 'e' :: rest => some (.flag true, rest)
  | 'f' :: 'a' :: 'l' :: 's' :: 'e' :: rest => some (.flag false, rest)
  | _ =>
    match readText text with
    | some (value, rest) => some (.text (String.ofList value), rest)
    | none =>
      let isPart (c : Char) : Bool := c.isAlphanum || c == '_' || c == '-' || c == '+'
      if isNumber (text.takeWhile isPart) then some (.other, text.dropWhile isPart) else none

/-- Reads a key and its value. -/
def readEntry (text : List Char) : Option ((List String × SettingValue) × List Char) := do
  let (key, rest) ← readKey text.length text
  match rest with
  | '=' :: rest =>
    let (value, rest) ← readValue (skipBlanks rest)
    return ((key, value), rest)
  | _ => none

/-- Reads the entries of a file, one on a line. The bound is on the number of lines. -/
def readEntries : Nat → List Char → Option (List (List String × SettingValue))
  | 0, _ => none
  | _ + 1, [] => some []
  | bound + 1, text =>
    match readLineEnd text with
    | some rest => readEntries bound rest
    | none => do
      let (entry, rest) ← readEntry (skipBlanks text)
      return entry :: (← readEntries bound (← readLineEnd rest))

/-- Whether two keys can stand in one file: neither is the start of the other. -/
def areApart (left right : List String) : Bool :=
  !left.isPrefixOf right && !right.isPrefixOf left

/-- The assignment to a setting that an entry makes. -/
def assignment? : List String × SettingValue → Option (String × SettingValue)
  | ([], _) => none
  | ([name], value) => some (name, value)
  | (name :: _, _) => some (name, .other)

/-- The assignments of a file, unless a line is malformed or two keys are not apart. -/
def parse? (text : String) : Option Assignments := do
  let text := content text.toList
  let entries ← readEntries (text.length + 1) text
  if (entries.map (·.1)).Pairwise (areApart · ·) then
    some (entries.filterMap assignment?)
  else none

example : parse? "# paths\ninput = \"model.json\" # here\n\nfail_on_error = true" =
    some [("input", .text "model.json"), ("fail_on_error", .flag true)] := by decide +kernel
example : parse? "a = 0x1F\r\nb.c = 1_000" = some [("a", .other), ("b", .other)] := by
  decide +kernel
example : parse? "a = \"\"\"\nx \\\n  y\"\"\"\"" = some [("a", .text "x y\"")] := by decide +kernel
example : parse? "a = 1\na.b = 2" = none := by decide +kernel
example : parse? "not an assignment =" = none := by decide +kernel

end FluentGen.ConfigurationFile
