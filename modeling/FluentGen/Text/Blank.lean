import FluentGen.Text.CharSet
/-!
# Blanks

White space as Unicode defines it, and what trimming and splitting do with it.

## Main definitions
* `isBlank`: the Unicode `White_Space` property.
* `trim`: a text without the blanks at its two ends.
* `isBlankText`: the texts that `trim` makes empty.
* `commaItems`: the trimmed, non-empty items of a comma-separated list.
-/
namespace FluentGen.Text

/-- The characters with the Unicode property `White_Space`. -/
def blankSet : CharSet :=
  [(0x9, 0xD), (0x20, 0x20), (0x85, 0x85), (0xA0, 0xA0), (0x1680, 0x1680), (0x2000, 0x200A),
    (0x2028, 0x2029), (0x202F, 0x202F), (0x205F, 0x205F), (0x3000, 0x3000)]

/-- Whether `c` is white space. -/
def isBlank (c : Char) : Bool :=
  blankSet.contains c

/-- Drops the blanks at the end. -/
def trimEnd (text : List Char) : List Char :=
  (text.reverse.dropWhile isBlank).reverse

/-- Drops the blanks at both ends. -/
def trim (text : String) : String :=
  String.ofList (trimEnd (text.toList.dropWhile isBlank))

/-- Whether `text` holds nothing but blanks. -/
def isBlankText (text : String) : Bool :=
  text.toList.all isBlank

/-- The items between commas, trimmed, without the empty ones. -/
def commaItems (text : String) : List String :=
  ((text.toList.splitOn ',').map fun item => trim (String.ofList item)).filter (!·.isEmpty)

end FluentGen.Text
