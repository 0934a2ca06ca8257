import FluentGen.Json.Reader
/-!
# Texts in quotes

How values of settings spell texts: in double quotes with escapes, on one line, with no control
character but the tab.

## Main definitions
* `isPrintable`: the characters of a line.
* `readEscape`: reads what a backslash starts.
* `readLiteral`: reads a text in double quotes.
-/
namespace FluentGen.Text

/-- Whether a character may stand in a line of a file. -/
def isPrintable (c : Char) : Bool :=
  c == '\t' || (0x20 ≤ c.toNat && c.toNat != 0x7F)

/-- The character with a code point written in hexadecimal digits. -/
def readCodePoint (digits : List Char) : Option Char := do
  let code ← digits.foldlM (fun code digit => (Json.hexValue? digit).map (16 * code + ·)) 0
  if code.isValidChar then some (Char.ofNat code) else none

/-- The character that a backslash and `c` stand for. -/
def literalEscape? : Char → Option Char
  | '"' => some '"'
  | '\\' => some '\\'
  | 'b' => some '\x08'
  | 'f' => some '\x0C'
  | 'n' => some '\n'
  | 'r' => some '\r'
  | 't' => some '\t'
  | _ => none

/-- Reads an escape after its backslash. -/
def readEscape : List Char → Option (Char × List Char)
  | 'u' :: a :: b :: c :: d :: rest => (readCodePoint [a, b, c, d]).map (·, rest)
  | 'U' :: a :: b :: c :: d :: e :: f :: g :: h :: rest =>
    (readCodePoint [a, b, c, d, e, f, g, h]).map (·, rest)
  | c :: rest => (literalEscape? c).map (·, rest)
  | [] => none

theorem length_lt_of_readEscape {text : List Char} {found : Char × List Char}
    (h : readEscape text = some found) : found.2.length < text.length := by
  unfold readEscape at h
  split at h
  · obtain ⟨_, _, rfl⟩ := Option.map_eq_some_iff.1 h
    simp only [List.length_cons]
    omega
  · obtain ⟨_, _, rfl⟩ := Option.map_eq_some_iff.1 h
    simp only [List.length_cons]
    omega
  · obtain ⟨_, _, rfl⟩ := Option.map_eq_some_iff.1 h
    simp only [List.length_cons]
    omega
  · simp at h

/-- Reads a text after its opening double quote, and returns it with what follows the closing
one. -/
def readLiteral : List Char → Option (List Char × List Char)
  | [] => none
  | '"' :: rest => some ([], rest)
  | '\\' :: rest =>
    match _h : readEscape rest with
    | some found => (readLiteral found.2).map fun (text, after) => (found.1 :: text, after)
    | none => none
  | c :: rest =>
    if isPrintable c then (readLiteral rest).map fun (text, after) => (c :: text, after) else none
termination_by text => text.length
decreasing_by
  · have := length_lt_of_readEscape _h
    simp only [List.length_cons]
    omega
  · simp only [List.length_cons]
    omega

example : readLiteral "a\\u00E9\" b".toList = some (['a', 'é'], [' ', 'b']) := by
  decide +kernel
example : readLiteral "a\\q\"".toList = none := by decide +kernel

end FluentGen.Text
