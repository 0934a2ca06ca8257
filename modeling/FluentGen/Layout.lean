/-!
# Layout of source text

Lines and blocks of source text, independent of how deep they stand.

## Main definitions
* `Layout`: a line, a blank line, a block in braces, or indented lines.
* `Layout.separate`: groups of lines with a blank line between each two.
* `Layout.lines`, `Layout.render`: the text.
-/
namespace FluentGen

/-- A piece of source text. -/
inductive Layout where
  | line (text : String)
  | blank
  /-- An opening brace, the indented body, and a closing brace with a suffix. -/
  | block (body : List Layout) (suffix : String)
  | indented (body : List Layout)
  deriving Repr

namespace Layout

/-- The blanks in front of a line inside `depth` blocks. -/
def indentation (depth : Nat) : String :=
  String.ofList (List.replicate (4 * depth) ' ')

mutual
/-- The lines of a piece inside `depth` blocks. -/
def lines (depth : Nat) : Layout → List String
  | .line text => [indentation depth ++ text]
  | .blank => [""]
  | .block body suffix =>
    (indentation depth ++ "\x7b") ::
      (allLines (depth + 1) body ++ [indentation depth ++ "\x7d" ++ suffix])
  | .indented body => allLines (depth + 1) body
/-- The lines of several pieces. -/
def allLines (depth : Nat) : List Layout → List String
  | [] => []
  | piece :: pieces => piece.lines depth ++ allLines depth pieces
end

/-- The groups that hold any piece, with a blank line between each two. -/
def separate (groups : List (List Layout)) : List Layout :=
  [Layout.blank].intercalate (groups.filter (!·.isEmpty))

/-- The text of several pieces; every line ends in a line break. -/
def render (pieces : List Layout) : String :=
  String.join ((allLines 0 pieces).map (· ++ "\n"))

end Layout

end FluentGen
