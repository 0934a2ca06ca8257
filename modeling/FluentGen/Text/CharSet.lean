/-!
# Character sets

Properties of characters that are given by a table: a set of characters is a list of inclusive
ranges of code points.

## Main definitions
* `CharSet`: a list of ranges.
* `CharSet.contains`: membership, as a Boolean.
-/
namespace FluentGen.Text

/-- A set of characters, as inclusive ranges of code points. -/
abbrev CharSet := List (Nat × Nat)

/-- Whether `c` lies in one of the ranges. -/
def CharSet.contains (set : CharSet) (c : Char) : Bool :=
  set.any fun range => range.1 ≤ c.toNat && c.toNat ≤ range.2

@[grind =]
theorem CharSet.contains_iff {set : CharSet} {c : Char} :
    set.contains c = true ↔ ∃ range ∈ set, range.1 ≤ c.toNat ∧ c.toNat ≤ range.2 := by
  simp [CharSet.contains]

end FluentGen.Text
