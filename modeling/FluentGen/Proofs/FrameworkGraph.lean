import FluentGen.Proofs.InterfaceGraph
import Mathlib.Data.List.Nodup
import Mathlib.Tactic.MkIffOfInductiveProp
/-!
# The graph of the framework's collections

What the framework's collection types extend, over any type arguments, in a snapshot that does not
declare these types in another way.

## Main definitions
* `Compilation.KeepsFramework`: the snapshot leaves the framework's collections as they are.
* `TypeRef.KeptAs`: a type argument that is not lost in the place of a type parameter.
* `Framework.IsInstance`: a reference to a collection type of the framework.
* `Framework.filled`: a collection type over an item, or over a key and a value.

## Main statements
* `Compilation.isInstance_of_mem_interfaces`: collection types extend collection types only.
* `Compilation.supertypes_filled`: what a collection type extends over the same item or entry.
* `Compilation.mem_interfaces_filled_iff`: its interfaces, direct or not, are found.
-/
namespace FluentGen

/-! ## Arguments in the place of parameters -/

/-- Whether a type argument is kept in the place of `parameter`. The parameter itself stays unbound,
and an annotation that it has as an argument is lost. -/
def TypeRef.KeptAs (argument : TypeRef) (parameter : String) : Prop :=
  argument.kind = .typeParameter → argument.name = parameter → argument = .typeParameter parameter

/-- Whether all arguments are kept in the places of the declaration's parameters. -/
def NamedType.Keeps (declaration : NamedType) (arguments : List TypeRef) : Prop :=
  ∀ pair ∈ (declaration.typeParameters.map (·.name)).zip arguments, pair.2.KeptAs pair.1

/-- The declaration with the given arguments. -/
def NamedType.constructed (declaration : NamedType) (arguments : List TypeRef) : TypeRef :=
  .generic declaration.qualifier declaration.name declaration.kind arguments

theorem Bindings.lookup_eq {bindings : Bindings} {parameter : String} {argument : TypeRef}
    (only : ∀ other, (parameter, other) ∈ bindings → other = argument) :
    bindings.lookup parameter =
      if (parameter, argument) ∈ bindings then some argument else none := by
  induction bindings with
  | nil => rfl
  | cons binding others ih =>
    obtain ⟨name, type⟩ := binding
    by_cases same : parameter = name
    · have := only type (by simp [same])
      simp [same, this]
    · have := ih fun other h => only other (List.mem_cons_of_mem _ h)
      simp [List.lookup_cons, beq_eq_false_iff_ne.mpr same, same, this]

/-- Of arguments that are paired with different names, each name has one. -/
theorem eq_of_mem_zip {parameters : List String} {arguments : List TypeRef}
    (apart : parameters.Nodup) {parameter : String} {argument other : TypeRef}
    (h : (parameter, argument) ∈ parameters.zip arguments)
    (h' : (parameter, other) ∈ parameters.zip arguments) : other = argument := by
  obtain ⟨i, hi, same⟩ := List.getElem_of_mem h
  obtain ⟨j, hj, same'⟩ := List.getElem_of_mem h'
  simp only [List.getElem_zip, Prod.mk.injEq] at same same'
  obtain rfl := (List.Nodup.getElem_inj_iff apart).mp (same.1.trans same'.1.symm)
  exact same'.2.symm.trans same.2

theorem getElem_mem_zip {parameters : List String} {arguments : List TypeRef} {i : Nat}
    (h : i < parameters.length) (h' : i < arguments.length) :
    (parameters[i], arguments[i]) ∈ parameters.zip arguments :=
  List.mem_iff_getElem.mpr ⟨i, by rw [List.length_zip]; omega, List.getElem_zip⟩

namespace TypeRef

theorem key_generic (qualifier name : String) (kind : TypeKind) (arguments : List TypeRef) :
    (generic qualifier name kind arguments).key =
      definitionKey qualifier name arguments.length := by
  unfold generic key
  split
  next empty => simp [definitionKey, empty]
  next => rfl

theorem substitute_generic {kind : TypeKind} (h : kind ≠ .typeParameter) (qualifier name : String)
    (arguments : List TypeRef) (bindings : Bindings) :
    (generic qualifier name kind arguments).substitute bindings =
      generic qualifier name kind (arguments.map (substitute bindings)) := by
  simp [generic, substitute, h]

theorem substitute_typeParameter (parameter : String) (bindings : Bindings) :
    (typeParameter parameter).substitute bindings =
      (bindings.lookup parameter).getD (.typeParameter parameter) := by
  simp only [typeParameter, named, generic, substitute, if_true]
  cases bindings.lookup parameter with
  | none => rfl
  | some bound =>
    cases bound
    simp

end TypeRef

namespace NamedType

variable {declaration : NamedType} {reference : TypeRef}

theorem key_constructed {arguments : List TypeRef}
    (arity : arguments.length = declaration.typeParameters.length) :
    (declaration.constructed arguments).key = declaration.key := by
  rw [constructed, TypeRef.key_generic, NamedType.key, arity]

/-- A type parameter becomes the argument that the reference has in its place. -/
theorem substitute_parameter (names : (declaration.typeParameters.map (·.name)).Nodup)
    {pair : String × TypeRef}
    (h : pair ∈ (declaration.typeParameters.map (·.name)).zip reference.arguments)
    (kept : pair.2.KeptAs pair.1) :
    (TypeRef.typeParameter pair.1).substitute (declaration.bindingsFor reference) = pair.2 := by
  have only : ∀ other, (pair.1, other) ∈ declaration.bindingsFor reference → other = pair.2 :=
    fun other h' => eq_of_mem_zip names h (List.mem_filter.mp (List.mem_reverse.mp h')).1
  rw [TypeRef.substitute_typeParameter, Bindings.lookup_eq only]
  -- A parameter that would stand for itself is unbound, but then nothing is to be replaced.
  by_cases itself : pair.2.kind = .typeParameter ∧ pair.2.name = pair.1
  · rw [kept itself.1 itself.2]
    split <;> rfl
  · have bound : pair ∈ declaration.bindingsFor reference :=
      List.mem_reverse.mpr (List.mem_filter.mpr ⟨h, by simpa [imp_iff_not_or] using itself⟩)
    rw [if_pos bound, Option.getD_some]

end NamedType

namespace Framework

/-! ## The definitions -/

/-- Whether a reference is to a collection type of the framework, with as many arguments as the
type has parameters. -/
def IsInstance (reference : TypeRef) : Prop :=
  ∃ definition ∈ definitions, ∃ arguments : List TypeRef,
    arguments.length = definition.typeParameters.length ∧
      reference = definition.constructed arguments

/-- What a definition extends. -/
def parents (definition : NamedType) : List NamedType :=
  definition.interfaces.filterMap fun interface => find? interface.key

/-- A definition and what it extends directly or not; no chain has more than three links. -/
def lineage (definition : NamedType) : List NamedType :=
  let next := (parents definition).flatMap parents
  definition :: (parents definition ++ next ++ next.flatMap parents)

/-- An item for a definition with one parameter, a key and a value for one with two. -/
def fillers (item key value : TypeRef) (definition : NamedType) : List TypeRef :=
  if definition.typeParameters.length = 2 then [key, value] else [item]

/-- A definition over an item, or over a key and a value. -/
def filled (item key value : TypeRef) (definition : NamedType) : TypeRef :=
  definition.constructed (fillers item key value definition)

/-- What fills a definition: arguments that are kept, and entries for the items of a map. -/
structure Fills (item key value : TypeRef) (definition : NamedType) : Prop where
  keptItem : item.KeptAs "T"
  entry : definition.typeParameters.length = 2 →
    key.KeptAs "TKey" ∧ value.KeptAs "TValue" ∧ item = keyValuePairOf key value

/-- What `parent` is over where `definition` declares that it extends it. -/
def patternOf (definition parent : NamedType) : List TypeRef :=
  if parent.typeParameters.length = 2 then entry
  else if definition.typeParameters.length = 2 then pair
  else Framework.item

/-- What the definitions have in common. -/
@[mk_iff]
structure IsListed (definition : NamedType) : Prop where
  find?_key : find? definition.key = some definition
  baseType : definition.baseType = none
  kind : definition.kind ≠ .typeParameter ∧ definition.kind ≠ .arrayType
  parameters :
    (definition.typeParameters.length = 1 ∧ definition.typeParameters.map (·.name) = ["T"]) ∨
      (definition.typeParameters.length = 2 ∧
        definition.typeParameters.map (·.name) = ["TKey", "TValue"])
  interfaces : definition.interfaces =
    (parents definition).map fun parent => parent.constructed (patternOf definition parent)
  length_patternOf : ∀ parent ∈ parents definition,
    (patternOf definition parent).length = parent.typeParameters.length
  lineage : ∀ ancestor ∈ lineage definition, ancestor ∈ definitions ∧
    ancestor.typeParameters.length ≤ definition.typeParameters.length ∧
    ∀ parent ∈ parents ancestor, parent ∈ Framework.lineage definition
  qualifier : definition.qualifier ∈ [collections, objectModel]
  name : '<' ∉ definition.name.toList
  fullName_inj : ∀ other ∈ definitions, definition.fullName = other.fullName → definition = other

instance (definition : NamedType) : Decidable (IsListed definition) :=
  decidable_of_iff _ (isListed_iff definition).symm

theorem isListed {definition : NamedType} (h : definition ∈ definitions) : IsListed definition := by
  have all : ∀ definition ∈ definitions, IsListed definition := by decide +kernel
  exact all definition h

theorem plain_qualifier : ∀ qualifier ∈ [collections, objectModel],
    qualifier.isEmpty = false ∧ '<' ∉ qualifier.toList := by
  decide +kernel

theorem mem_lineage_of_mem_parents {definition parent : NamedType}
    (h : parent ∈ parents definition) : parent ∈ lineage definition :=
  .tail _ (List.mem_append_left _ (List.mem_append_left _ h))

variable {definition : NamedType} {item key value : TypeRef}

theorem Fills.of_mem_lineage (fills : Fills item key value definition)
    (h : definition ∈ definitions) {ancestor : NamedType} (h' : ancestor ∈ lineage definition) :
    Fills item key value ancestor where
  keptItem := fills.keptItem
  entry two := by
    have fewer := ((isListed h).lineage ancestor h').2.1
    have arity := (isListed h).parameters
    exact fills.entry (by omega)

theorem length_fillers (h : definition ∈ definitions) :
    (fillers item key value definition).length = definition.typeParameters.length := by
  rcases (isListed h).parameters with ⟨arity, -⟩ | ⟨arity, -⟩ <;> simp [fillers, arity]

theorem arguments_filled : (filled item key value definition).arguments =
    fillers item key value definition := rfl

theorem key_filled (h : definition ∈ definitions) :
    (filled item key value definition).key = definition.key :=
  NamedType.key_constructed (length_fillers h)

theorem exists_fills (h : definition ∈ definitions) {arguments : List TypeRef}
    (arity : arguments.length = definition.typeParameters.length)
    (kept : definition.Keeps arguments) :
    ∃ item key value, Fills item key value definition ∧
      definition.constructed arguments = filled item key value definition := by
  rcases (isListed h).parameters with ⟨one, names⟩ | ⟨two, names⟩
  · obtain ⟨element, rfl⟩ := List.length_eq_one_iff.mp (arity.trans one)
    refine ⟨element, element, element, ⟨?_, by simp [one]⟩, by simp [filled, fillers, one]⟩
    exact kept ("T", element) (by simp [names])
  · obtain ⟨key, value, rfl⟩ := List.length_eq_two.mp (arity.trans two)
    refine ⟨keyValuePairOf key value, key, value, ⟨?_, fun _ => ⟨?_, ?_, rfl⟩⟩,
      by simp [filled, fillers, two]⟩
    · simp [TypeRef.KeptAs, keyValuePairOf, TypeRef.generic]
    · exact kept ("TKey", key) (by simp [names])
    · exact kept ("TValue", value) (by simp [names])

/-- What a definition extends is filled as the definition is. -/
theorem map_substitute_patternOf (h : definition ∈ definitions)
    (fills : Fills item key value definition) {parent : NamedType}
    (h' : parent ∈ parents definition) :
    (patternOf definition parent).map (TypeRef.substitute
        (definition.bindingsFor (filled item key value definition))) =
      fillers item key value parent := by
  have fewer := ((isListed h).lineage parent (mem_lineage_of_mem_parents h')).2.1
  have substituted : ∀ pair ∈ (definition.typeParameters.map (·.name)).zip
      (filled item key value definition).arguments, pair.2.KeptAs pair.1 →
        (TypeRef.typeParameter pair.1).substitute
          (definition.bindingsFor (filled item key value definition)) = pair.2 := by
    have nodup : (definition.typeParameters.map (·.name)).Nodup := by
      rcases (isListed h).parameters with ⟨-, names⟩ | ⟨-, names⟩ <;> simp [names]
    exact fun _ => NamedType.substitute_parameter nodup
  rw [arguments_filled] at substituted
  generalize definition.bindingsFor (filled item key value definition) = bindings at substituted ⊢
  rcases (isListed h).parameters with ⟨arity, names⟩ | ⟨arity, names⟩
  · have onItem := substituted ("T", item) (by simp [names, fillers, arity]) fills.keptItem
    have one : ¬ parent.typeParameters.length = 2 := by omega
    simp [patternOf, fillers, one, arity, Framework.item, onItem]
  · obtain ⟨keptKey, keptValue, entry⟩ := fills.entry arity
    have onKey := substituted ("TKey", key) (by simp [names, fillers, arity]) keptKey
    have onValue := substituted ("TValue", value) (by simp [names, fillers, arity]) keptValue
    by_cases two : parent.typeParameters.length = 2
    · simp [patternOf, fillers, two, Framework.entry, onKey, onValue]
    · simp [patternOf, fillers, two, arity, pair, keyValuePairOf, entry,
        TypeRef.substitute_generic, onKey, onValue]

end Framework

namespace Compilation

open Framework

/-- Whether the snapshot leaves the framework's collections as they are: those that it declares
itself extend the same types over the same parameters. -/
def KeepsFramework (model : Compilation) : Prop :=
  ∀ definition ∈ definitions, ∀ type ∈ model.find? definition.key,
    type.typeParameters.map (·.name) = definition.typeParameters.map (·.name) ∧
      type.interfaces = definition.interfaces ∧ type.baseType = definition.baseType

variable {model : Compilation}

theorem supertypes_constructed (keeps : model.KeepsFramework) {definition : NamedType}
    (h : definition ∈ definitions) {arguments : List TypeRef}
    (arity : arguments.length = definition.typeParameters.length) :
    model.supertypes (definition.constructed arguments) =
      (parents definition).map fun parent =>
        parent.constructed ((patternOf definition parent).map (TypeRef.substitute
          (definition.bindingsFor (definition.constructed arguments)))) := by
  have declared : model.supertypes (definition.constructed arguments) =
      definition.interfaces.map
        (TypeRef.substitute (definition.bindingsFor (definition.constructed arguments))) := by
    -- The snapshot is asked first, and it says what the framework says.
    unfold supertypes lookup? resolve?
    rw [NamedType.key_constructed arity]
    cases found : model.find? definition.key with
    | none =>
      simp [(isListed h).find?_key, (isListed h).baseType]
    | some type =>
      obtain ⟨names, interfaces, base⟩ := keeps definition h type found
      simp [interfaces, base, (isListed h).baseType, NamedType.bindingsFor, names]
  rw [declared, (isListed h).interfaces, List.map_map]
  refine List.map_congr_left fun parent h' => TypeRef.substitute_generic ?_ _ _ _ _
  have listed := ((isListed h).lineage parent (mem_lineage_of_mem_parents h')).1
  exact (isListed listed).kind.1

theorem isInstance_of_mem_supertypes (keeps : model.KeepsFramework) {r s : TypeRef}
    (h : IsInstance r) (extended : s ∈ model.supertypes r) : IsInstance s := by
  obtain ⟨definition, h, arguments, arity, rfl⟩ := h
  rw [supertypes_constructed keeps h arity] at extended
  obtain ⟨parent, h', rfl⟩ := List.mem_map.mp extended
  have listed := (isListed h).lineage parent (mem_lineage_of_mem_parents h')
  exact ⟨parent, listed.1, _,
    (List.length_map _).trans ((isListed h).length_patternOf parent h'), rfl⟩

theorem isInstance_of_mem_interfaces (keeps : model.KeepsFramework) {r s : TypeRef}
    (h : IsInstance r) (found : s ∈ model.interfaces r) : IsInstance s :=
  forall_mem_interfaces (P := IsInstance)
    (fun _ h _ => isInstance_of_mem_supertypes keeps h) h s found

section Filled

variable {definition : NamedType} {item key value : TypeRef}

theorem supertypes_filled (keeps : model.KeepsFramework) (h : definition ∈ definitions)
    (fills : Fills item key value definition) :
    model.supertypes (filled item key value definition) =
      (parents definition).map (filled item key value) := by
  rw [filled, supertypes_constructed keeps h (length_fillers h)]
  refine List.map_congr_left fun parent h' => ?_
  exact congrArg parent.constructed (map_substitute_patternOf h fills h')

/-- What is reached from a collection type is what its definition extends, filled alike. -/
theorem reaches_filled_iff (keeps : model.KeepsFramework) (h : definition ∈ definitions)
    (fills : Fills item key value definition) {r : TypeRef} :
    model.Reaches (filled item key value definition) r ↔
      ∃ ancestor ∈ lineage definition, r = filled item key value ancestor := by
  have extended : ∀ ancestor ∈ lineage definition,
      model.supertypes (filled item key value ancestor) =
        (parents ancestor).map (filled item key value) := fun ancestor listed =>
    supertypes_filled keeps ((isListed h).lineage ancestor listed).1 (fills.of_mem_lineage h listed)
  constructor
  · intro reached
    induction reached with
    | refl => exact ⟨definition, List.mem_cons_self, rfl⟩
    | tail _ further ih =>
      obtain ⟨ancestor, listed, rfl⟩ := ih
      rw [extended ancestor listed] at further
      obtain ⟨parent, h', rfl⟩ := List.mem_map.mp further
      exact ⟨parent, ((isListed h).lineage ancestor listed).2.2 parent h', rfl⟩
  · -- `climb` goes one link further, and no chain has more than three.
    have climb : ∀ reached : List NamedType,
        (∀ a ∈ reached, a ∈ lineage definition ∧
          model.Reaches (filled item key value definition) (filled item key value a)) →
        ∀ p ∈ reached.flatMap parents, p ∈ lineage definition ∧
          model.Reaches (filled item key value definition) (filled item key value p) := by
      intro reached known p hp
      obtain ⟨a, ha, hp⟩ := List.mem_flatMap.mp hp
      obtain ⟨listed, here⟩ := known a ha
      refine ⟨((isListed h).lineage a listed).2.2 p hp, here.tail ?_⟩
      rw [extended a listed]
      exact List.mem_map_of_mem hp
    have first := climb [definition] (by simp [lineage, Reaches, Relation.ReflTransGen.refl])
    rw [List.flatMap_singleton] at first
    have second := climb _ first
    rintro ⟨ancestor, listed, rfl⟩
    simp only [lineage, List.mem_cons, List.mem_append] at listed
    rcases listed with rfl | (listed | listed) | listed
    · exact .refl
    · exact (first ancestor listed).2
    · exact (second ancestor listed).2
    · exact (climb _ second ancestor listed).2

/-- The text of a collection type has its full name in front of the first angle bracket. -/
theorem takeWhile_display_filled (h : definition ∈ definitions) :
    (filled item key value definition).display.toList.takeWhile (· ≠ '<') =
      definition.fullName.toList := by
  obtain ⟨qualified, plain⟩ := plain_qualifier definition.qualifier (isListed h).qualifier
  have first : ∃ first others, fillers item key value definition = first :: others := by
    unfold fillers
    split <;> exact ⟨_, _, rfl⟩
  obtain ⟨first, others, given⟩ := first
  have text : ∃ rest, (filled item key value definition).display.toList =
      definition.fullName.toList ++ '<' :: rest := by
    unfold filled
    rw [given]
    unfold TypeRef.display NamedType.constructed TypeRef.generic TypeRef.render NamedType.fullName
    simp [qualified, (isListed h).kind.2]
  obtain ⟨rest, text⟩ := text
  have noAngle : ∀ c ∈ definition.fullName.toList, c ≠ '<' := by
    rintro c hc rfl
    simp [NamedType.fullName, qualified, plain, (isListed h).name] at hc
  rw [text, List.takeWhile_append_of_pos (by simpa using noAngle),
    List.takeWhile_cons_of_neg (by simp), List.append_nil]

theorem spelledApart_filled (keeps : model.KeepsFramework) (h : definition ∈ definitions)
    (fills : Fills item key value definition) :
    model.SpelledApart (filled item key value definition) := by
  intro a b reached reached' same
  obtain ⟨ancestor, listed, rfl⟩ := (reaches_filled_iff keeps h fills).mp reached
  obtain ⟨ancestor', listed', rfl⟩ := (reaches_filled_iff keeps h fills).mp reached'
  have declared := ((isListed h).lineage ancestor listed).1
  have declared' := ((isListed h).lineage ancestor' listed').1
  have names : ancestor.fullName.toList = ancestor'.fullName.toList := by
    rw [← takeWhile_display_filled declared, same, takeWhile_display_filled declared']
  rw [(isListed declared).fullName_inj ancestor' declared' (String.toList_injective names)]

theorem eq_filled_of_mem_interfaces (keeps : model.KeepsFramework) (h : definition ∈ definitions)
    (fills : Fills item key value definition) {r : TypeRef}
    (found : r ∈ model.interfaces (filled item key value definition)) :
    ∃ ancestor ∈ lineage definition, r = filled item key value ancestor :=
  (reaches_filled_iff keeps h fills).mp (reaches_of_mem_interfaces found)

/-- All collection types that a collection type extends are found, filled alike. -/
theorem mem_interfaces_filled_iff (keeps : model.KeepsFramework) (h : definition ∈ definitions)
    (fills : Fills item key value definition)
    (finite : model.HasFiniteGraph (filled item key value definition)) {r : TypeRef} :
    r ∈ model.interfaces (filled item key value definition) ↔
      r.isInterface = true ∧
        ∃ ancestor ∈ lineage definition, r = filled item key value ancestor := by
  rw [mem_interfaces_iff finite (spelledApart_filled keeps h fills),
    reaches_filled_iff keeps h fills]

end Filled

end Compilation

end FluentGen
