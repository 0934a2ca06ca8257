import FluentGen.Declaration
/-!
# Compilations

A snapshot of a compiled program: its declared types and assembly attributes.

## Main definitions
* `Compilation`: the snapshot.
* `Compilation.find?`, `Compilation.resolve?`: the declaration with a key, or behind a reference.
-/
namespace FluentGen

/-- The declared types of a program, in order, with what is set for the program as a whole. -/
structure Compilation where
  /-- Whether nullable annotations are on everywhere. -/
  nullableEnabled : Bool := false
  assemblyAttributes : List Attribute := []
  types : List NamedType := []
  /-- How many references one walk over the interface graph may visit. Every finite graph in
  use stays far below; the bound cuts off declarations that expand for ever, such as an interface
  of `T` that extends itself at lists of `T`. -/
  walkLimit : Nat := 0x1000000000000
  deriving DecidableEq, Repr

namespace Compilation

/-- The first declared type with the given key. -/
def find? (model : Compilation) (key : String) : Option NamedType :=
  model.types.find? (·.key == key)

/-- The position of the first declared type with the given key. -/
def findIdx? (model : Compilation) (key : String) : Option Nat :=
  model.types.findIdx? (·.key == key)

/-- The declared type behind a reference. -/
def resolve? (model : Compilation) (reference : TypeRef) : Option NamedType :=
  model.find? reference.key

@[grind →]
theorem mem_of_find? {model : Compilation} {key : String} {type : NamedType}
    (h : model.find? key = some type) : type ∈ model.types :=
  List.mem_of_find?_eq_some h

@[grind →]
theorem key_of_find? {model : Compilation} {key : String} {type : NamedType}
    (h : model.find? key = some type) : type.key = key := by
  simpa using List.find?_some h

end Compilation

end FluentGen
