/-!
# Positions in bytes

Some positions in a text count the bytes of its UTF-8 form. Only those between two characters are
places where a text can be cut.

## Main definitions
* `byteCount`: the number of bytes of a text.
* `splitAtByte?`, `slice?`: cuts at positions in bytes.
-/
namespace FluentGen.Text

/-- The number of bytes of a text. -/
def byteCount : List Char → Nat
  | [] => 0
  | c :: rest => c.utf8Size + byteCount rest

/-- The first bytes of a text and what is behind them. There are none when a character would be cut
in two, or when the text is too short. -/
def splitAtByte? : Nat → List Char → Option (List Char × List Char)
  | 0, text => some ([], text)
  | _ + 1, [] => none
  | count + 1, c :: rest =>
    if c.utf8Size ≤ count + 1 then
      (splitAtByte? (count + 1 - c.utf8Size) rest).map fun (first, after) => (c :: first, after)
    else none

/-- The part of a text between two positions. -/
def slice? (start stop : Nat) (text : List Char) : Option (List Char) := do
  let (_, after) ← splitAtByte? start text
  let (part, _) ← splitAtByte? (stop - start) after
  return part

example : splitAtByte? 2 ['é', 'a'] = some (['é'], ['a']) := by decide
example : splitAtByte? 1 ['é', 'a'] = none := by decide
example : slice? 2 3 ['é', 'a', 'b'] = some ['a'] := by decide

end FluentGen.Text
