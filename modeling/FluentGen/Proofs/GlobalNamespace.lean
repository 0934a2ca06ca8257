import FluentGen.Proofs.Imports
import FluentGen.Proofs.Overloads
import FluentGen.Proofs.Rendering
/-!
# The global namespace

The global namespace is spelled in two ways: a reference has no namespace, or one of an empty name. A
declaration is found by either spelling. The text of a reference, the namespaces collected from it and
the comparison with others are as if an empty name were a namespace like any other.

## Main definitions
* `TypeRef.SpelledAlike`: references that are equal but for the spelling of the global namespace.
* `TypeRef.AgreesWith`: what references have to agree in that are found alike.
* `TypeRef.written`: a reference as far as its text tells.

## Main statements
* `TypeRef.display_eq_iff`: when references that are spelled alike have one text.
* `TypeRef.display_eq_fullName_iff`: when a reference has the text of the declaration that it finds.
* `TypeRef.agreesWith_iff_of_spelledAlike`: how far rendering agrees with lookup.
-/
namespace FluentGen

namespace TypeRef

/-! ## Spellings -/

mutual
/-- The reference with the global namespace left out wherever it is written. -/
def withoutGlobal : TypeRef → TypeRef
  | ⟨name, qualifier, kind, arguments, nullable⟩ =>
    ⟨name, qualifier.filter (· ≠ ""), kind, withoutGlobalAll arguments, nullable⟩
/-- The references of a list with the global namespace left out. -/
def withoutGlobalAll : List TypeRef → List TypeRef
  | [] => []
  | type :: types => type.withoutGlobal :: withoutGlobalAll types
end

/-- Whether two references are equal except that either may leave the global namespace out where the
other one writes it, at every depth. -/
def SpelledAlike (a b : TypeRef) : Prop :=
  a.withoutGlobal = b.withoutGlobal

instance (a b : TypeRef) : Decidable (a.SpelledAlike b) :=
  inferInstanceAs (Decidable (_ = _))

/-- What references agree in if they are the same to whatever prints, imports or compares them. -/
structure AgreesWith (a b : TypeRef) : Prop where
  display : a.display = b.display
  namespaces : ∀ seen, a.addNamespaces seen = b.addNamespaces seen
  sameType : a.sameType b = true

mutual
/-- The reference as far as its text tells: an array is its first argument and an annotation. -/
def written : TypeRef → TypeRef
  | ⟨_, _, .arrayType, element :: _, nullable⟩ =>
    ⟨"", none, .arrayType, [element.written], nullable⟩
  | ⟨name, qualifier, kind, arguments, nullable⟩ =>
    ⟨name, qualifier, kind, writtenAll arguments, nullable⟩
/-- The references of a list as far as their texts tell. -/
def writtenAll : List TypeRef → List TypeRef
  | [] => []
  | type :: types => type.written :: writtenAll types
end

theorem withoutGlobalAll_eq_map (types : List TypeRef) :
    withoutGlobalAll types = types.map withoutGlobal := by
  induction types with
  | nil => rfl
  | cons type types ih => rw [withoutGlobalAll, ih, List.map_cons]

theorem withoutGlobal_eq (type : TypeRef) : type.withoutGlobal =
    { type with
      qualifier := type.qualifier.filter (· ≠ "")
      arguments := type.arguments.map withoutGlobal } := by
  obtain ⟨name, qualifier, kind, arguments, nullable⟩ := type
  rw [withoutGlobal, withoutGlobalAll_eq_map]

theorem writtenAll_eq_map (types : List TypeRef) : writtenAll types = types.map written := by
  induction types with
  | nil => rfl
  | cons type types ih => rw [writtenAll, ih, List.map_cons]

theorem written_of_array {type element : TypeRef} {others : List TypeRef}
    (array : type.kind = .arrayType) (arguments : type.arguments = element :: others) :
    type.written = ⟨"", none, .arrayType, [element.written], type.nullable⟩ := by
  obtain ⟨name, qualifier, kind, _, nullable⟩ := type
  obtain rfl : kind = .arrayType := array
  cases arguments
  rfl

theorem written_of_plain {type : TypeRef} (plain : type.kind ≠ .arrayType ∨ type.arguments = []) :
    type.written = { type with arguments := type.arguments.map written } := by
  obtain ⟨name, qualifier, kind, arguments, nullable⟩ := type
  cases arguments <;> cases kind <;> simp_all [written, writtenAll, writtenAll_eq_map]

variable {a b type : TypeRef}

theorem spelledAlike_iff : a.SpelledAlike b ↔ a.name = b.name ∧
    a.qualifier.filter (· ≠ "") = b.qualifier.filter (· ≠ "") ∧ a.kind = b.kind ∧
    a.arguments.map withoutGlobal = b.arguments.map withoutGlobal ∧ a.nullable = b.nullable := by
  rw [SpelledAlike, withoutGlobal_eq, withoutGlobal_eq, mk.injEq]

/-! ## What agrees -/

theorem getD_filter_empty (qualifier : Option String) :
    (qualifier.filter (· ≠ "")).getD "" = qualifier.getD "" := by
  cases qualifier with
  | none => rfl
  | some name => by_cases global : name = "" <;> simp [Option.filter, global]

/-- A declaration is found by either spelling. -/
theorem key_withoutGlobal (type : TypeRef) : type.withoutGlobal.key = type.key := by
  rw [withoutGlobal_eq, key, key, List.length_map, getD_filter_empty]

theorem parts_withoutGlobal (type : TypeRef) :
    type.withoutGlobal.parts = type.parts.map withoutGlobal := by
  induction type using induction_arguments with
  | step type ih =>
    rw [withoutGlobal_eq]
    obtain ⟨name, qualifier, kind, arguments, nullable⟩ := type
    simp only [parts, partsOfAll_eq_flatMap, List.map_cons, List.map_flatMap, List.flatMap_map,
      withoutGlobal_eq ⟨name, qualifier, kind, arguments, nullable⟩]
    congr 1
    exact List.flatMap_congr ih

theorem SpelledAlike.keys (alike : a.SpelledAlike b) : a.parts.map key = b.parts.map key := by
  have parts : a.parts.map withoutGlobal = b.parts.map withoutGlobal := by
    rw [← parts_withoutGlobal, ← parts_withoutGlobal, alike]
  refine map_eq_map_of_map_eq parts fun part _ part' _ same => ?_
  rw [← key_withoutGlobal part, same, key_withoutGlobal]

theorem qualifiers_withoutGlobal (type : TypeRef) :
    type.withoutGlobal.qualifiers = type.namespaces := by
  rw [qualifiers, parts_withoutGlobal, List.filterMap_map, namespaces, qualifiers,
    List.filter_filterMap]
  refine List.filterMap_congr fun part _ => ?_
  rw [Function.comp_apply, withoutGlobal_eq]

/-- The namespaces with a name are collected alike. -/
theorem SpelledAlike.namespaces (alike : a.SpelledAlike b) (seen : List String) :
    (a.addNamespaces seen).filter (· ≠ "") = (b.addNamespaces seen).filter (· ≠ "") := by
  have named : (distinctBy id a.qualifiers).filter (· ≠ "") =
      (distinctBy id b.qualifiers).filter (· ≠ "") :=
    calc (distinctBy id a.qualifiers).filter (· ≠ "")
      _ = distinctBy id a.namespaces := filter_distinctBy (· ≠ "") a.qualifiers
      _ = distinctBy id b.namespaces := by
        rw [← qualifiers_withoutGlobal, alike, qualifiers_withoutGlobal]
      _ = (distinctBy id b.qualifiers).filter (· ≠ "") :=
        (filter_distinctBy (· ≠ "") b.qualifiers).symm
  rw [addNamespaces_eq, addNamespaces_eq, List.filter_append, List.filter_append, List.filter_comm,
    named, List.filter_comm]

mutual
theorem render_simple_withoutGlobal : ∀ type : TypeRef,
    type.withoutGlobal.render .simple = type.render .simple
  | ⟨name, qualifier, kind, [], nullable⟩ => by
    cases kind <;> simp [withoutGlobal, withoutGlobalAll, render]
  | ⟨name, qualifier, kind, first :: others, nullable⟩ => by
    cases kind <;> simp [withoutGlobal, withoutGlobalAll, render,
      render_simple_withoutGlobal first, renderOthers_simple_withoutGlobalAll others]
theorem renderOthers_simple_withoutGlobalAll : ∀ types : List TypeRef,
    renderOthers .simple (withoutGlobalAll types) = renderOthers .simple types
  | [] => rfl
  | type :: types => by
    simp [withoutGlobalAll, renderOthers, render_simple_withoutGlobal type,
      renderOthers_simple_withoutGlobalAll types]
end

theorem SpelledAlike.simpleDisplay (alike : a.SpelledAlike b) :
    a.simpleDisplay = b.simpleDisplay := by
  unfold SpelledAlike at alike
  rw [TypeRef.simpleDisplay, TypeRef.simpleDisplay, ← render_simple_withoutGlobal a, alike,
    render_simple_withoutGlobal]

mutual
/-- Spellings of one reference that are equal up to annotations are equal. -/
theorem eq_of_unannotated_eq : ∀ a b : TypeRef, a.withoutGlobal = b.withoutGlobal →
    a.unannotated = b.unannotated → a = b
  | ⟨_, _, _, arguments, _⟩, ⟨_, _, _, arguments', _⟩ => by
    simp only [withoutGlobal, unannotated, mk.injEq]
    rintro ⟨-, -, -, alike, nullable⟩ ⟨name, qualifier, kind, same, -⟩
    exact ⟨name, qualifier, kind, all_eq_of_unannotated_eq arguments arguments' alike same, nullable⟩
/-- The same, of the references of two lists. -/
theorem all_eq_of_unannotated_eq : ∀ as bs : List TypeRef, withoutGlobalAll as = withoutGlobalAll bs →
    unannotatedAll as = unannotatedAll bs → as = bs
  | [], [] => fun _ _ => rfl
  | [], _ :: _ | _ :: _, [] => by simp [withoutGlobalAll]
  | a :: as, b :: bs => by
    simp only [withoutGlobalAll, unannotatedAll, List.cons.injEq]
    rintro ⟨alike, others⟩ ⟨same, same'⟩
    exact ⟨eq_of_unannotated_eq a b alike same, all_eq_of_unannotated_eq as bs others same'⟩
end

/-- References that are spelled alike are compared by their spelling. -/
theorem SpelledAlike.sameType_iff (alike : a.SpelledAlike b) : a.sameType b = true ↔ a = b := by
  rw [TypeRef.sameType_iff]
  exact ⟨eq_of_unannotated_eq a b alike, congrArg _⟩

/-! ## Texts -/

mutual
theorem render_written : ∀ type : TypeRef, type.written.render .full = type.render .full
  | ⟨name, qualifier, kind, [], nullable⟩ => by cases kind <;> simp [written, writtenAll]
  | ⟨name, qualifier, kind, first :: others, nullable⟩ => by
    cases kind <;> simp [written, writtenAll, render, render_written first,
      renderOthers_writtenAll others]
theorem renderOthers_writtenAll : ∀ types : List TypeRef,
    renderOthers .full (writtenAll types) = renderOthers .full types
  | [] => rfl
  | type :: types => by
    simp [writtenAll, renderOthers, render_written type, renderOthers_writtenAll types]
end

/-- Whether a text does not go on with a dot, which stands behind namespaces. -/
def Undotted (rest : List Char) : Prop :=
  '.' ∉ rest.head?

/-- Whether a reference is told apart by its text from others that are spelled alike. -/
def ToldFromAlike (a : TypeRef) : Prop :=
  ∀ b : TypeRef, a.SpelledAlike b → ∀ rest rest', Undotted rest → Undotted rest' →
    a.backwards ++ rest = b.backwards ++ rest' → a.written = b.written ∧ rest = rest'

/-- A name with its namespace tells how the global one is spelled, if no dot follows. -/
theorem qualifier_eq_of_wordBackwards_append_eq (name : a.name = b.name)
    (qualifier : a.qualifier.filter (· ≠ "") = b.qualifier.filter (· ≠ "")) {rest rest' : List Char}
    (hrest : Undotted rest) (hrest' : Undotted rest')
    (same : a.wordBackwards ++ rest = b.wordBackwards ++ rest') :
    a.qualifier = b.qualifier ∧ rest = rest' := by
  rw [wordBackwards, wordBackwards, name, List.append_assoc, List.append_assoc,
    List.append_cancel_left_eq] at same
  rcases written : a.qualifier with - | p <;> rcases written' : b.qualifier with - | q <;>
    rw [written, written'] at qualifier same
  case none.none => exact ⟨rfl, same⟩
  case none.some => exact absurd (congrArg List.head? same) hrest
  case some.none => exact absurd (congrArg List.head? same).symm hrest'
  case some.some =>
    have names : p = q := by
      by_cases global : p = "" <;> by_cases global' : q = "" <;>
        simp [Option.filter, global, global'] at qualifier ⊢
      exact qualifier
    subst names
    exact ⟨rfl, List.append_cancel_left same⟩

/-- Arguments are told apart one by one. -/
theorem written_eq_of_argumentsBackwards_eq {types types' : List TypeRef} {rest rest' : List Char}
    (alike : types.map withoutGlobal = types'.map withoutGlobal)
    (told : ∀ type ∈ types, type.ToldFromAlike)
    (same : (types.flatMap fun type => type.backwards ++ [' ', ',']) ++ rest =
      (types'.flatMap fun type => type.backwards ++ [' ', ',']) ++ rest') :
    types.map written = types'.map written ∧ rest = rest' := by
  induction types generalizing types' with
  | nil =>
    obtain rfl : types' = [] := by simpa using alike.symm
    exact ⟨rfl, same⟩
  | cons type types ih =>
    cases types' with
    | nil => cases alike
    | cons type' types' =>
      obtain ⟨head, tail⟩ := List.cons.inj alike
      obtain ⟨here, told⟩ := List.forall_mem_cons.mp told
      simp only [List.flatMap_cons, List.append_assoc] at same
      have undotted : ∀ rest, Undotted ([' ', ','] ++ rest) := fun rest => by simp [Undotted]
      obtain ⟨written, same⟩ := here type' head _ _ (undotted _) (undotted _) same
      obtain ⟨others, same⟩ := ih tail told (List.append_cancel_left same)
      exact ⟨by rw [List.map_cons, List.map_cons, written, others], same⟩

section Shapes

variable {rest rest' : List Char} (alike : a.SpelledAlike b) (hrest : Undotted rest)
  (hrest' : Undotted rest') (same : a.bare.backwards ++ rest = b.bare.backwards ++ rest')
include alike hrest hrest' same

theorem written_eq_of_plain (arguments : a.arguments = []) : a.written = b.written ∧ rest = rest' := by
  obtain ⟨name, qualifier, kind, alikeArguments, nullable⟩ := spelledAlike_iff.mp alike
  have arguments' : b.arguments = [] := by simpa [arguments] using alikeArguments.symm
  rw [backwards_plain arguments, backwards_plain arguments'] at same
  obtain ⟨qualifier, rfl⟩ :=
    qualifier_eq_of_wordBackwards_append_eq name qualifier hrest hrest' same
  rw [written_of_plain (.inr arguments), written_of_plain (.inr arguments'), arguments, arguments',
    name, qualifier, kind, nullable]
  exact ⟨rfl, rfl⟩

variable {first first' : TypeRef} {others others' : List TypeRef}
  (arguments : a.arguments = first :: others) (arguments' : b.arguments = first' :: others')
  (told : ∀ argument ∈ a.arguments, argument.ToldFromAlike)
include arguments arguments' told

theorem written_eq_of_array (array : a.kind = .arrayType) : a.written = b.written ∧ rest = rest' := by
  obtain ⟨-, -, kind, alikeArguments, nullable⟩ := spelledAlike_iff.mp alike
  have array' := kind ▸ array
  rw [backwards_array array arguments, backwards_array array' arguments'] at same
  simp only [List.cons_append, List.cons.injEq, true_and] at same
  rw [arguments, arguments'] at alikeArguments
  obtain ⟨element, rfl⟩ :=
    told first (by simp [arguments]) first' (List.cons.inj alikeArguments).1 _ _ hrest hrest' same
  rw [written_of_array array arguments, written_of_array array' arguments', element, nullable]
  exact ⟨rfl, rfl⟩

theorem written_eq_of_applied (plain : a.kind ≠ .arrayType) :
    a.written = b.written ∧ rest = rest' := by
  obtain ⟨name, qualifier, kind, alikeArguments, nullable⟩ := spelledAlike_iff.mp alike
  have plain' := kind ▸ plain
  rw [backwards_applied plain arguments, backwards_applied plain' arguments'] at same
  simp only [List.cons_append, List.append_assoc, List.cons.injEq, true_and] at same
  rw [arguments, arguments'] at alikeArguments
  obtain ⟨alikeFirst, alikeOthers⟩ := List.cons.inj alikeArguments
  rw [arguments, List.forall_mem_cons] at told
  -- From the end the arguments come up in reverse, and the name stands behind the first of them.
  obtain ⟨others, same⟩ := written_eq_of_argumentsBackwards_eq
    (by rw [List.map_reverse, List.map_reverse, alikeOthers])
    (fun type h => told.2 type (List.mem_reverse.mp h)) same
  have undotted : ∀ rest, Undotted ('<' :: rest) := fun rest => by simp [Undotted]
  obtain ⟨first, same⟩ := told.1 first' alikeFirst _ _ (undotted _) (undotted _) same
  obtain ⟨qualifier, rfl⟩ :=
    qualifier_eq_of_wordBackwards_append_eq name qualifier hrest hrest' (List.cons.inj same).2
  rw [List.map_reverse, List.map_reverse, List.reverse_inj] at others
  rw [written_of_plain (.inl plain), written_of_plain (.inl plain'), arguments, arguments',
    List.map_cons, List.map_cons, first, others, name, qualifier, kind, nullable]
  exact ⟨rfl, rfl⟩

end Shapes

theorem toldFromAlike (a : TypeRef) : a.ToldFromAlike := by
  induction a using induction_arguments with
  | step a ih =>
    intro b alike rest rest' hrest hrest' same
    obtain ⟨-, -, -, alikeArguments, nullable⟩ := spelledAlike_iff.mp alike
    rw [backwards_eq a, backwards_eq b, nullable, List.append_assoc, List.append_assoc,
      List.append_cancel_left_eq] at same
    rcases arguments : a.arguments with - | ⟨first, others⟩ <;>
      rcases arguments' : b.arguments with - | ⟨first', others'⟩
    case nil.nil => exact written_eq_of_plain alike hrest hrest' same arguments
    case nil.cons | cons.nil => simp [arguments, arguments'] at alikeArguments
    case cons.cons =>
      by_cases array : a.kind = .arrayType
      · exact written_eq_of_array alike hrest hrest' same arguments arguments' ih array
      · exact written_eq_of_applied alike hrest hrest' same arguments arguments' ih array

/-- References that are spelled alike have one text exactly if the global namespace is spelled alike
wherever the text has a name. -/
theorem display_eq_iff (alike : a.SpelledAlike b) :
    a.display = b.display ↔ a.written = b.written := by
  have ends : Undotted [] := fun h => nomatch h
  refine ⟨fun same => ?_, fun same => ?_⟩
  · exact (toldFromAlike a b alike [] [] ends ends (by rw [backwards, backwards, same])).1
  · rw [display, ← render_written, same, render_written, display]

end TypeRef

/-! ## Texts of declarations -/

/-- A key is the name after its namespace, and the number of type parameters if there are any. -/
theorem NamedType.key_eq (declaration : NamedType) : declaration.key = declaration.fullName ++
    (if declaration.typeParameters = [] then ""
      else "`" ++ toString declaration.typeParameters.length) := by
  unfold key definitionKey fullName
  split <;> simp

namespace TypeRef

variable {type : TypeRef}

/-- The text of a reference without arguments and annotation is its key, with a dot in front of it if
the global namespace is written. -/
theorem display_eq_key (arguments : type.arguments = []) (nullable : type.nullable = false) :
    type.display = (if type.qualifier = some "" then "." else "") ++ type.key := by
  obtain ⟨name, qualifier, kind, _, _⟩ := type
  cases arguments
  cases nullable
  rcases qualifier with - | qualifier
  · cases kind <;> simp [display, render, key, definitionKey]
  · by_cases global : qualifier = "" <;>
      cases kind <;> simp [display, render, key, definitionKey, global]

/-- The text of a reference to a declaration is the name of the declaration exactly if the global
namespace is not written, and the declaration has no type parameters that the reference leaves out. -/
theorem display_eq_fullName_iff {model : Compilation} {declaration : NamedType}
    (found : model.resolve? type = some declaration) (arguments : type.arguments = [])
    (nullable : type.nullable = false) :
    type.display = declaration.fullName ↔
      type.qualifier ≠ some "" ∧ declaration.typeParameters = [] := by
  rw [display_eq_key arguments nullable, ← Compilation.key_of_find? found, NamedType.key_eq]
  constructor
  · intro same
    have length := congrArg (·.toList.length) same
    constructor <;> by_contra h <;> simp [h] at length <;> omega
  · rintro ⟨named, plain⟩
    rw [if_neg named, if_pos plain, String.empty_append, String.append_empty]

/-- What references that are spelled alike agree in, and how far. -/
structure AgreesUpToGlobal (a b : TypeRef) : Prop where
  /-- The declarations that are found are the same at every depth. -/
  keys : a.parts.map key = b.parts.map key
  simpleDisplay : a.simpleDisplay = b.simpleDisplay
  namespaces : ∀ seen,
    (a.addNamespaces seen).filter (· ≠ "") = (b.addNamespaces seen).filter (· ≠ "")
  /-- The texts are the same only if the global namespace is spelled alike wherever it would show. -/
  display_iff : a.display = b.display ↔ a.written = b.written
  sameType_iff : a.sameType b = true ↔ a = b

/-- References that are spelled alike find the same declarations, but they agree in everything else
only if they are equal. A reference has the text of the declaration that it finds exactly if it does
not write the global namespace, and leaves out no type parameters. -/
theorem agreesWith_iff_of_spelledAlike {a b : TypeRef} (alike : a.SpelledAlike b) :
    (a.AgreesUpToGlobal b ∧ (a.AgreesWith b ↔ a = b)) ∧
    ∀ (model : Compilation) (declaration : NamedType), model.resolve? a = some declaration →
      a.arguments = [] → a.nullable = false →
      (a.display = declaration.fullName ↔
        a.qualifier ≠ some "" ∧ declaration.typeParameters = []) := by
  refine ⟨⟨?_, fun agree => ?_, ?_⟩, fun _ _ => display_eq_fullName_iff⟩
  · exact ⟨alike.keys, alike.simpleDisplay, alike.namespaces, display_eq_iff alike,
      alike.sameType_iff⟩
  · exact alike.sameType_iff.mp agree.sameType
  · rintro rfl
    exact ⟨rfl, fun _ => rfl, alike.sameType_iff.mpr rfl⟩

/-- The class `Item` of the global namespace, which is written. -/
def globalItem : TypeRef :=
  ⟨"Item", some "", .classType, [], false⟩

/-- A box of items agrees with no other spelling of it, while a class that is referred to without a
namespace has the text of its declaration. -/
theorem agreesWith_iff_of_spelledAlike_box :
    let item := named "" "Item" .classType
    let box := generic "Shop" "Box" .classType [item]
    let other := generic "Shop" "Box" .classType [globalItem]
    let declaration : NamedType := { name := "Item" }
    (box.SpelledAlike other ∧ box.simpleDisplay = other.simpleDisplay ∧ ¬ box.AgreesWith other) ∧
    Compilation.resolve? { types := [declaration] } item = some declaration ∧
    item.arguments = [] ∧ item.nullable = false ∧ item.display = declaration.fullName := by
  intro item box other declaration
  have alike : box.SpelledAlike other := by decide
  obtain ⟨upToGlobal, agree_iff⟩ := (agreesWith_iff_of_spelledAlike alike).1
  have found : Compilation.resolve? { types := [declaration] } item = some declaration := by decide
  refine ⟨⟨alike, upToGlobal.simpleDisplay, mt agree_iff.mp (by decide)⟩, found, rfl, rfl, ?_⟩
  have itself : item.SpelledAlike item := rfl
  exact ((agreesWith_iff_of_spelledAlike itself).2 _ declaration found rfl rfl).mpr ⟨by decide, rfl⟩

/-- Both spellings find the class, but they differ in their texts and namespaces and do not pass for
the same type, and one of them does not have the text of the class. -/
theorem not_agreesWith_global :
    let item := named "" "Item" .classType
    let declaration : NamedType := { name := "Item" }
    let model : Compilation := { types := [declaration] }
    item.SpelledAlike globalItem ∧ ¬ item.AgreesWith globalItem ∧
    (item.display, globalItem.display) = ("Item", ".Item") ∧
    (item.addNamespaces [], globalItem.addNamespaces []) = ([], [""]) ∧
    item.sameType globalItem = false ∧
    model.resolve? item = some declaration ∧ model.resolve? globalItem = some declaration ∧
    globalItem.kind = declaration.kind ∧ globalItem.display ≠ declaration.fullName := by
  intro item declaration model
  have different : item.sameType globalItem = false := by decide
  exact ⟨by decide, fun agree => absurd agree.sameType (by decide), by decide, by decide, different,
    by decide, by decide, rfl, by decide⟩

end TypeRef

end FluentGen
