/-!
# Names of generated files

A file is named for its builder. When the name is taken, a number from a counter of the whole run is
put into it.

## Main definitions
* `FileNames`: the names handed out so far, with the counter.
* `FileNames.claim`: the next name for a builder.
-/
namespace FluentGen

/-- The names handed out in one run, the latest first, and the last number tried. -/
structure FileNames where
  counter : Nat := 0
  claimed : List String := []
  deriving DecidableEq, Repr

namespace FileNames

/-- The name for the first builder of a name. -/
def preferred (builder : String) : String :=
  builder ++ ".g.cs"

/-- The name with a number. -/
def numbered (builder : String) (number : Nat) : String :=
  builder ++ "." ++ toString number ++ ".g.cs"

/-- The least number above `counter` whose name is free; at most `bound` of them are passed over. -/
def freeNumber (claimed : List String) (builder : String) : Nat → Nat → Nat
  | 0, counter => counter + 1
  | bound + 1, counter =>
    if numbered builder (counter + 1) ∈ claimed then freeNumber claimed builder bound (counter + 1)
    else counter + 1

/-- The next name for `builder`. There are no more names to pass over than have been claimed. -/
def claim (names : FileNames) (builder : String) : String × FileNames :=
  if preferred builder ∈ names.claimed then
    let number := freeNumber names.claimed builder names.claimed.length names.counter
    let name := numbered builder number
    (name, { counter := number, claimed := name :: names.claimed })
  else
    (preferred builder, { names with claimed := preferred builder :: names.claimed })

/-- The names for several builders, claimed in order. -/
def claimAll (names : FileNames) : List String → List String × FileNames
  | [] => ([], names)
  | builder :: builders =>
    let (name, names) := names.claim builder
    let (others, names) := names.claimAll builders
    (name :: others, names)

example : (claimAll {} ["A", "B", "A", "A"]).1 = ["A.g.cs", "B.g.cs", "A.1.g.cs", "A.2.g.cs"] := by
  decide

end FileNames

end FluentGen
