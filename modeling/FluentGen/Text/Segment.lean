/-!
# Dotted names

## Main definitions
* `lastSegment`: what follows the last dot.
* `dropSuffix`: a text without an ending.
-/
namespace FluentGen.Text

/-- What follows the last dot, or the whole text when it has none. -/
def lastSegment (text : String) : String :=
  String.ofList (text.toList.reverse.takeWhile (· != '.')).reverse

/-- The text without `suffix` at its end, once, if it ends so. -/
def dropSuffix (suffix text : String) : String :=
  if suffix.toList.isSuffixOf text.toList then
    String.ofList (text.toList.take (text.length - suffix.length))
  else text

example : lastSegment (dropSuffix "Attribute" "Shop.MakerAttribute") = "Maker" := by decide

end FluentGen.Text
