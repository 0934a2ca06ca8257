import FluentGen.Framework
/-!
# Base classes and interfaces

A constructed type sees its base class and interfaces with its own type arguments in the place of
the type parameters they are declared over.

## Main definitions
* `Level`, `Compilation.levels`: a class and its base classes, from the most derived on.
* `Compilation.supertypes`: what a reference directly extends.
* `Compilation.interfaces`: every interface that a reference is or implements.
-/
namespace FluentGen

/-- A declaration on a chain of base classes, with the types that its parameters stand for. -/
structure Level where
  declaration : NamedType
  bindings : Bindings
  deriving DecidableEq, Repr

namespace Compilation

/-- The level of the base class, if the snapshot declares it. -/
def baseLevel? (model : Compilation) (level : Level) : Option Level :=
  level.declaration.baseType.bind fun base =>
    let closed := base.substitute level.bindings
    (model.resolve? closed).map fun declaration => ⟨declaration, declaration.bindingsFor closed⟩

/-- The levels from `level` on, without those whose definition is among the keys in `visited`; at
most `bound` of them. -/
def levelsFrom (model : Compilation) : Nat → List String → Level → List Level
  | 0, _, _ => []
  | bound + 1, visited, level =>
    let key := level.declaration.key
    if key ∈ visited then []
    else
      match model.baseLevel? level with
      | some base => level :: levelsFrom model bound (key :: visited) base
      | none => [level]

/-- A class and its base classes. The chain ends where a base class is not declared or comes up for
the second time; since all levels but the first are declared in the snapshot, there is at most one
more than the snapshot has types. -/
def levels (model : Compilation) (start : NamedType) (bindings : Bindings) : List Level :=
  model.levelsFrom (model.types.length + 1) [] ⟨start, bindings⟩

/-- What a reference directly extends: its declared interfaces in order, then its base class. -/
def supertypes (model : Compilation) (reference : TypeRef) : List TypeRef :=
  match model.lookup? reference with
  | none => []
  | some declaration =>
    (declaration.interfaces ++ declaration.baseType.toList).map
      (TypeRef.substitute (declaration.bindingsFor reference))

/-- The interfaces met by visiting the pending references and what they extend, in depth-first
order. A reference counts as visited when its text is in `seen`. -/
def interfacesFrom (model : Compilation) : Nat → List String → List TypeRef → List TypeRef
  | 0, _, _ => []
  | _ + 1, _, [] => []
  | bound + 1, seen, current :: pending =>
    if current.display ∈ seen then interfacesFrom model bound seen pending
    else
      let others :=
        interfacesFrom model bound (current.display :: seen) (model.supertypes current ++ pending)
      if current.isInterface then current :: others else others

/-- Every interface that a reference is or implements, in the order of a depth-first search. -/
def interfaces (model : Compilation) (reference : TypeRef) : List TypeRef :=
  model.interfacesFrom model.walkLimit [] [reference]

end Compilation

end FluentGen
