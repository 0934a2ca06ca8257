import FluentGen.Proofs.Arities
/-!
# Lookup by key

The key of a definition tells the namespace, the name and the number of type parameters that it is
made of, so looking it up gives the first type of a snapshot that has just these. An index of
positions by keys gives the same if it is filled in one pass and the first type of a key stays.

## Main definitions
* `NamedType.IsExactly`: a declaration of a given namespace, name and number of type parameters.
* `Compilation.positionsOf`, `Compilation.findIndexed?`: positions by keys, and what is found by them.
* `Compilation.FindsFirst`: looking up a key gives the first type that has what the key is made of.

## Main statements
* `Compilation.getElem?_foldl_addPosition`: an index keeps what it has and gets what comes first.
* `Compilation.findIndexed?_eq_find?`: the index gives what going through the types gives.
* `Compilation.find?_definitionKey`: names that are identifiers can be read back from keys.
* `Compilation.findsFirst`: what a key is made of is found, and nothing else has this key.
-/
namespace FluentGen

/-- Whether a declaration has just this namespace, name and number of type parameters. -/
def NamedType.IsExactly (declaration : NamedType) (qualifier name : String) (arity : Nat) : Prop :=
  (declaration.qualifier = qualifier ∧ declaration.name = name) ∧
    declaration.typeParameters.length = arity

instance (declaration : NamedType) (qualifier name : String) (arity : Nat) :
    Decidable (declaration.IsExactly qualifier name arity) :=
  inferInstanceAs (Decidable (_ ∧ _))

theorem NamedType.key_eq_iff_isExactly {declaration : NamedType} {qualifier name : String}
    {arity : Nat} (h : IsIdentifier declaration.name) (h' : IsIdentifier name) :
    declaration.key = definitionKey qualifier name arity ↔
      declaration.IsExactly qualifier name arity :=
  definitionKey_inj h h'

namespace Compilation

/-! ## The index -/

/-- Records the position of a type under its key, unless the key has a position. -/
def addPosition (index : Std.HashMap String Nat) (entry : NamedType × Nat) :
    Std.HashMap String Nat :=
  index.insertIfNew entry.1.key entry.2

/-- The positions of types by their keys, recorded one type after the other. -/
def positionsOf (types : List NamedType) : Std.HashMap String Nat :=
  types.zipIdx.foldl addPosition ∅

/-- The declared type at the position that the index has for a key. -/
def findIndexed? (model : Compilation) (key : String) : Option NamedType :=
  (positionsOf model.types)[key]?.bind fun position => model.types[position]?

variable {model : Compilation} {key : String}

/-- Recording a type keeps the position of every key that has one. -/
theorem getElem?_addPosition (index : Std.HashMap String Nat) (entry : NamedType × Nat) :
    (addPosition index entry)[key]? =
      index[key]?.or (if entry.1.key == key then some entry.2 else none) := by
  rw [addPosition, Std.HashMap.getElem?_insertIfNew]
  by_cases same : entry.1.key = key
  · subst same
    cases known : index[entry.1.key]? <;> simp [← Std.HashMap.isSome_getElem?_iff_mem, known]
  · simp [same]

/-- An index that is filled goes on to have what it had, and gets the position of the first of the
types of any other key. -/
theorem getElem?_foldl_addPosition (entries : List (NamedType × Nat))
    (index : Std.HashMap String Nat) : (entries.foldl addPosition index)[key]? =
      index[key]?.or ((entries.find? (·.1.key == key)).map (·.2)) := by
  induction entries generalizing index with
  | nil => simp
  | cons entry entries ih =>
    rw [List.foldl_cons, ih, getElem?_addPosition, Option.or_assoc, List.find?_cons]
    cases entry.1.key == key <;> rfl

theorem getElem?_positionsOf : (positionsOf model.types)[key]? = model.findIdx? key := by
  rw [positionsOf, getElem?_foldl_addPosition, findIdx?, List.findIdx?_eq_fst_find?_zipIdx]
  simp

/-- The index gives what going through the types in order gives. -/
theorem findIndexed?_eq_find? (model : Compilation) : model.findIndexed? = model.find? := by
  funext key
  rw [findIndexed?, getElem?_positionsOf, findIdx?, find?, List.find?_eq_bind_findIdx?_getElem?]

/-! ## What a key is made of -/

/-- Whether looking up the key of a namespace, a name and a number of type parameters gives the first
type that has just these, and nothing if there is none. -/
structure FindsFirst (model : Compilation) (qualifier name : String) (arity : Nat) : Prop where
  some_iff : ∀ declaration, model.find? (definitionKey qualifier name arity) = some declaration ↔
    declaration.IsExactly qualifier name arity ∧
      ∃ before after, model.types = before ++ declaration :: after ∧
        ∀ other ∈ before, ¬ other.IsExactly qualifier name arity
  none_iff : model.find? (definitionKey qualifier name arity) = none ↔
    ∀ declaration ∈ model.types, ¬ declaration.IsExactly qualifier name arity

section

variable {qualifier name : String} {arity : Nat}
  (names : ∀ declaration ∈ model.types, IsIdentifier declaration.name) (identifier : IsIdentifier name)
include names identifier

/-- Going by the key is going by what the key is made of. -/
theorem find?_definitionKey : model.find? (definitionKey qualifier name arity) =
    model.types.find? fun declaration => declaration.IsExactly qualifier name arity := by
  rw [find?, ← List.head?_filter, ← List.head?_filter]
  refine congrArg List.head? (List.filter_congr fun declaration h => ?_)
  exact decide_eq_decide.mpr (declaration.key_eq_iff_isExactly (names declaration h) identifier)

theorem findsFirst_definitionKey : model.FindsFirst qualifier name arity := by
  constructor
  case some_iff =>
    intro declaration
    rw [find?_definitionKey names identifier, List.find?_eq_some_iff_append]
    simp only [decide_eq_true_eq, Bool.not_eq_true', decide_eq_false_iff_not]
  case none_iff =>
    rw [find?_definitionKey names identifier, List.find?_eq_none]
    simp only [decide_eq_true_eq]

end

/-- Where all names are identifiers, looking up a key gives the first type of just the namespace, the
name and the number of type parameters that the key is made of, by the index as well as in order; for
different ones have different keys. -/
theorem findsFirst :
    (∀ model : Compilation, (∀ declaration ∈ model.types, IsIdentifier declaration.name) →
      ∀ qualifier name arity, IsIdentifier name →
        model.FindsFirst qualifier name arity ∧
          model.findIndexed? (definitionKey qualifier name arity) =
            model.find? (definitionKey qualifier name arity)) ∧
    ∀ qualifier qualifier' name name' arity arity', IsIdentifier name → IsIdentifier name' →
      (qualifier, name, arity) ≠ (qualifier', name', arity') →
        definitionKey qualifier name arity ≠ definitionKey qualifier' name' arity' := by
  constructor
  · intro model names qualifier name arity identifier
    exact ⟨findsFirst_definitionKey names identifier, congrFun (findIndexed?_eq_find? model) _⟩
  · intro qualifier qualifier' name name' arity arity' identifier identifier' different same
    obtain ⟨⟨rfl, rfl⟩, rfl⟩ := (definitionKey_inj identifier identifier').mp same
    exact different rfl

/-- Of three classes of one name, the first one with one type parameter is found. -/
theorem findsFirst_boxes :
    let model := Entity.boxesOver [["K", "V"], ["T"], ["U"]]
    ((∀ declaration ∈ model.types, IsIdentifier declaration.name) ∧ IsIdentifier "Box") ∧
    (("Shop", "Box", 1) ≠ ("Shop", "Box", 2)) ∧
    definitionKey "Shop" "Box" 1 ≠ definitionKey "Shop" "Box" 2 ∧
    model.find? (definitionKey "Shop" "Box" 1) = model.types[1]? ∧
    model.findIndexed? (definitionKey "Shop" "Box" 1) = model.types[1]? := by
  intro model
  have names : ∀ declaration ∈ model.types, IsIdentifier declaration.name := by decide
  have identifier : IsIdentifier "Box" := by decide
  have different : (("Shop", "Box", 1) : String × String × Nat) ≠ ("Shop", "Box", 2) := by decide
  obtain ⟨first, indexed⟩ := findsFirst.1 model names "Shop" "Box" 1 identifier
  have found : model.find? (definitionKey "Shop" "Box" 1) = model.types[1]? :=
    (first.some_iff _).mpr ⟨by decide, [_], [_], rfl, by decide⟩
  refine ⟨⟨names, identifier⟩, different, ?_, found, indexed.trans found⟩
  exact findsFirst.2 _ _ _ _ _ _ identifier identifier different

/-- A name with a dot in it passes for one behind a namespace. -/
example : definitionKey "" "Shop.Box" 1 = definitionKey "Shop" "Box" 1 := by decide

end Compilation

end FluentGen
