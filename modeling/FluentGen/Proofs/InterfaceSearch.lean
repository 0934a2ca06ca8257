import FluentGen.Proofs.DepthFirst
import FluentGen.Proofs.FrameworkGraph
import FluentGen.Proofs.Rendering
import FluentGen.Proofs.TypeParameters
/-!
# The search for interfaces

The interfaces of a reference are those that a depth-first search comes to, along the declared
interfaces and the base type with arguments in the place of type parameters. An argument that is the
very parameter it stands for is not replaced, so that an annotation it carries is lost where the
parameter is used without one.

## Main definitions
* `Compilation.parents`: what a reference extends, with all its arguments in place.
* `Compilation.Ascends`: going to declared interfaces and base types, any number of times.
* `Compilation.WellFormed`: references on the way have proper names and consistent kinds.
* `Compilation.KeepsAnnotations`: no annotation of an argument is lost in one step.
* `Compilation.SearchesDepthFirst`: the interfaces are those of a depth-first search.

## Main statements
* `Compilation.supertypes_eq_parents_iff`: a step is right if and only if it keeps annotations.
* `Compilation.searchesDepthFirst`: the interfaces are found if all steps keep annotations.
-/
namespace FluentGen

namespace TypeRef

/-- Whether type parameters are nothing but names, maybe with annotations. -/
def PlainParameters : TypeRef → Prop :=
  Everywhere fun part => part.kind = .typeParameter → part.bare = .typeParameter part.name

instance (type : TypeRef) : Decidable type.PlainParameters :=
  inferInstanceAs (Decidable (Everywhere _ type))

theorem bare_withNullable (type : TypeRef) :
    ({ type.bare with nullable := type.nullable } : TypeRef) = type := by
  cases type
  rfl

/-- Substitutions agree on a reference if and only if they do on the type parameters in it. -/
theorem substitute_eq_substitute_iff {type : TypeRef} {bindings bindings' : Bindings}
    (plain : type.PlainParameters) : type.substitute bindings = type.substitute bindings' ↔
      type.Everywhere fun part => part.kind = .typeParameter →
        part.substitute bindings = part.substitute bindings' := by
  induction type using induction_arguments with
  | step type ih =>
    obtain ⟨here, onArguments⟩ := everywhere_iff.mp plain
    rw [everywhere_iff]
    by_cases parameter : type.kind = .typeParameter
    · have arguments : type.arguments = [] := congrArg TypeRef.arguments (here parameter)
      simp [parameter, arguments]
    · rw [substitute_of_ne parameter, substitute_of_ne parameter]
      simp only [parameter, false_implies, true_and, mk.injEq, and_true, List.map_inj_left]
      exact forall₂_congr fun argument h => ih argument h (onArguments argument h)

end TypeRef

namespace NamedType

variable {declaration : NamedType} {reference : TypeRef}

/-- A type parameter is replaced by its argument, unless this is the parameter itself with an
annotation that the parameter does not have. -/
theorem substitute_bindingsFor_eq_iff (names : declaration.parameterNames.Nodup)
    (plain : ∀ argument ∈ reference.arguments, argument.PlainParameters) {part : TypeRef}
    (parameter : part.kind = .typeParameter) (bare : part.bare = .typeParameter part.name) :
    part.substitute (declaration.bindingsFor reference) =
        part.substitute (declaration.parameterNames.zip reference.arguments) ↔
      ((part.name, (TypeRef.typeParameter part.name).asNullable) ∈
        declaration.parameterNames.zip reference.arguments → part.nullable = true) := by
  rw [TypeRef.substitute_of_eq parameter, TypeRef.substitute_of_eq parameter]
  by_cases declared : ∃ argument,
      (part.name, argument) ∈ declaration.parameterNames.zip reference.arguments
  · obtain ⟨argument, mem⟩ := declared
    have only : ∀ other,
        (part.name, other) ∈ declaration.parameterNames.zip reference.arguments → other = argument :=
      fun _ h => eq_of_mem_zip names mem h
    rw [Bindings.lookup_eq only, if_pos mem,
      Bindings.lookup_eq fun other h => only other (mem_bindingsFor_iff.mp h).1]
    by_cases itself : argument.kind = .typeParameter ∧ argument.name = part.name
    · -- The parameter stays as it is, and its argument differs from it in the annotation only.
      have same : argument.bare = .typeParameter part.name := by
        have head := (TypeRef.everywhere_iff.mp (plain _ (List.of_mem_zip mem).2)).1
        rw [← itself.2]
        exact head itself.1
      rw [if_neg fun h => (mem_bindingsFor_iff.mp h).2 itself]
      have annotated : (part.name, (TypeRef.typeParameter part.name).asNullable) ∈
          declaration.parameterNames.zip reference.arguments ↔ argument.nullable = true := by
        constructor
        · intro h
          rw [← only _ h]
          rfl
        · intro h
          have here : (TypeRef.typeParameter part.name).asNullable = argument := by
            rw [← same, TypeRef.asNullable, ← h, TypeRef.bare_withNullable]
          rwa [here]
      have replaced : ({ argument with nullable := argument.nullable || part.nullable } : TypeRef) =
          { part.bare with nullable := argument.nullable || part.nullable } := by
        rw [bare, ← same, TypeRef.bare]
      rw [annotated]
      change part = { argument with nullable := argument.nullable || part.nullable } ↔ _
      rw [replaced]
      obtain ⟨name, qualifier, kind, arguments, nullable⟩ := part
      cases argument.nullable <;> cases nullable <;> simp [TypeRef.bare]
    · rw [if_pos (mem_bindingsFor_iff.mpr ⟨mem, itself⟩)]
      refine iff_of_true rfl fun h => absurd ?_ itself
      rw [← only _ h]
      exact ⟨rfl, rfl⟩
  · have unbound : (declaration.parameterNames.zip reference.arguments).lookup part.name = none :=
      List.lookup_eq_none_iff.mpr fun pair h => by
        simpa using fun same : part.name = pair.1 => declared ⟨pair.2, same ▸ h⟩
    have unbound' : (declaration.bindingsFor reference).lookup part.name = none :=
      List.lookup_eq_none_iff.mpr fun pair h => by
        simpa using fun same : part.name = pair.1 =>
          declared ⟨pair.2, same ▸ (mem_bindingsFor_iff.mp h).1⟩
    rw [unbound, unbound']
    exact iff_of_true rfl fun h => absurd ⟨_, h⟩ declared

end NamedType

namespace Compilation

/-- What a reference extends: the interfaces of its declaration in order, then its base type, with
the arguments in the place of the type parameters. -/
def parents (model : Compilation) (reference : TypeRef) : List TypeRef :=
  match model.lookup? reference with
  | none => []
  | some declaration =>
    (declaration.interfaces ++ declaration.baseType.toList).map
      (TypeRef.substitute (declaration.parameterNames.zip reference.arguments))

/-- Whether `target` is reached from `source` by going to declared interfaces and base types. -/
def Ascends (model : Compilation) (source target : TypeRef) : Prop :=
  Relation.ReflTransGen (fun a b => b ∈ model.parents a) source target

/-- Whether the type parameters that a reference puts annotated in their own place are annotated
wherever its declaration uses them in what it extends. -/
def KeepsAnnotations (model : Compilation) (reference : TypeRef) : Prop :=
  ∀ declaration ∈ model.lookup? reference,
    ∀ extended ∈ declaration.interfaces ++ declaration.baseType.toList,
      extended.Everywhere fun part => part.kind = .typeParameter →
        (part.name, (TypeRef.typeParameter part.name).asNullable) ∈
          declaration.parameterNames.zip reference.arguments → part.nullable = true

/-- The references that are reached have proper names, type parameters are names, and references to
one definition are of one kind; so are those in the declarations on the way, which give their type
parameters different names. -/
structure WellFormed (model : Compilation) (reference : TypeRef) : Prop where
  spelled : ∀ r, model.Ascends reference r → r.WellSpelled
  plain : ∀ r, model.Ascends reference r → r.PlainParameters
  kinds : ∃ kindOf : String → TypeKind, ∀ r, model.Ascends reference r →
    r.Everywhere fun part => part.kind = kindOf part.key
  names : ∀ r, model.Ascends reference r → ∀ declaration ∈ model.lookup? r,
    declaration.parameterNames.Nodup
  extended : ∀ r, model.Ascends reference r → ∀ declaration ∈ model.lookup? r,
    ∀ extended ∈ declaration.interfaces ++ declaration.baseType.toList, extended.PlainParameters

/-- The list has just the interfaces that are reached from a reference, each text once, in the order
of a recursive depth-first search. -/
structure ListsInterfaces (model : Compilation) (reference : TypeRef) (interfaces : List TypeRef) :
    Prop where
  mem_iff : ∀ r, r ∈ interfaces ↔ r.isInterface = true ∧ model.Ascends reference r
  once : (interfaces.map TypeRef.display).Nodup
  ordered : ∃ order, DepthFirst model.parents [] [reference] order ∧
    interfaces = order.filter (·.isInterface)

/-- The walk that collects interfaces comes to an end, and then it has collected those of a recursive
depth-first search. -/
structure SearchesDepthFirst (model : Compilation) (reference : TypeRef) : Prop where
  terminates : ∃ bound, ∀ limit, bound ≤ limit →
    { model with walkLimit := limit }.HasFiniteGraph reference
  lists : ∀ limit, { model with walkLimit := limit }.HasFiniteGraph reference →
    model.ListsInterfaces reference ({ model with walkLimit := limit }.interfaces reference)

variable {model : Compilation} {reference : TypeRef}

/-- A step goes to what a reference extends if and only if it loses no annotation. -/
theorem supertypes_eq_parents_iff (plain : reference.PlainParameters)
    (names : ∀ declaration ∈ model.lookup? reference, declaration.parameterNames.Nodup)
    (extended : ∀ declaration ∈ model.lookup? reference,
      ∀ extended ∈ declaration.interfaces ++ declaration.baseType.toList,
        extended.PlainParameters) :
    model.supertypes reference = model.parents reference ↔ model.KeepsAnnotations reference := by
  unfold supertypes parents KeepsAnnotations
  cases found : model.lookup? reference with
  | none => simp
  | some declaration =>
    simp only [List.map_inj_left, Option.mem_some_iff, forall_eq']
    refine forall₂_congr fun type htype => ?_
    have plainHere := extended declaration found type htype
    rw [TypeRef.substitute_eq_substitute_iff plainHere]
    refine forall₂_congr fun part hpart => forall_congr' fun parameter => ?_
    exact NamedType.substitute_bindingsFor_eq_iff (names declaration found)
      (TypeRef.everywhere_iff.mp plain).2 parameter (plainHere part hpart parameter)

/-- The walk over the interface graph is a depth-first search wherever no step loses an
annotation. -/
theorem searchesDepthFirst (finite : {r | model.Ascends reference r}.Finite)
    (wellFormed : model.WellFormed reference)
    (keeps : ∀ r, model.Ascends reference r → model.KeepsAnnotations r) :
    model.SearchesDepthFirst reference := by
  have closed : ∀ r, model.Ascends reference r → ∀ s ∈ model.parents r, model.Ascends reference s :=
    fun r reached s hs => reached.tail hs
  have steps : ∀ r, model.Ascends reference r → model.supertypes r = model.parents r :=
    fun r reached => (supertypes_eq_parents_iff (wellFormed.plain r reached)
      (wellFormed.names r reached) (wellFormed.extended r reached)).mpr (keeps r reached)
  obtain ⟨kindOf, kinds⟩ := wellFormed.kinds
  have apart : ∀ r s, model.Ascends reference r → model.Ascends reference s →
      r.display = s.display → r = s :=
    fun r s hr hs => TypeRef.eq_of_display_eq (wellFormed.spelled r hr) (wellFormed.spelled s hs)
      (kinds r hr) (kinds s hs)
  obtain ⟨order, search⟩ := DepthFirst.exists_of_finite closed
    (finite.toFinset.image TypeRef.display)
    (fun r reached => Finset.mem_image_of_mem _ (finite.mem_toFinset.mpr reached)) []
    [reference] (List.forall_mem_singleton.mpr .refl)
  have reached : ∀ r ∈ order, model.Ascends reference r :=
    search.forall_mem closed (List.forall_mem_singleton.mpr .refl)
  -- What is reached has the text of something visited, and hence is visited.
  obtain ⟨start, covered⟩ := search.covers
  have visited : ∀ r, model.Ascends reference r → r.display ∈ order.map TypeRef.display → r ∈ order := by
    intro r hr text
    obtain ⟨s, hs, same⟩ := List.mem_map.mp text
    rwa [← apart s r (reached s hs) hr same]
  have all : ∀ r, model.Ascends reference r → r ∈ order := by
    intro r hr
    induction hr with
    | refl => exact visited _ .refl (by simpa using start)
    | @tail r s hr hs ih => exact visited s (hr.tail hs) (by simpa using covered r ih s hs)
  have same : ∀ limit, ∀ r ∈ order,
      ({ model with walkLimit := limit } : Compilation).supertypes r = model.parents r :=
    fun _ r hr => steps r (reached r hr)
  refine ⟨⟨_, fun limit enough => search.hasFiniteGraph (same limit) enough⟩, fun limit ends => ?_⟩
  rw [search.interfaces_eq (same limit) ends]
  refine ⟨fun r => ?_, ?_, order, search, rfl⟩
  · rw [List.mem_filter, and_comm]
    exact and_congr_right fun _ => ⟨reached r, all r⟩
  · have apart : (order.map TypeRef.display).Nodup := by simpa using search.nodup List.nodup_nil
    exact apart.sublist (List.filter_sublist.map _)

/-! ## Graphs given by a list -/

section Closed

variable {references : List TypeRef} (start : reference ∈ references)
  (closed : ∀ r ∈ references, ∀ s ∈ model.parents r, s ∈ references)
include start closed

/-- References that lead to each other only are all that is reached from one of them. -/
theorem Ascends.mem {r : TypeRef} (h : model.Ascends reference r) : r ∈ references := by
  induction h with
  | refl => exact start
  | tail _ hs ih => exact closed _ ih _ hs

theorem finite_of_closed : {r | model.Ascends reference r}.Finite :=
  references.finite_toSet.subset fun _ h => h.mem start closed

theorem WellFormed.of_closed (kindOf : String → TypeKind)
    (spelled : ∀ r ∈ references, r.WellSpelled ∧ r.PlainParameters ∧
      r.Everywhere fun part => part.kind = kindOf part.key)
    (declared : ∀ r ∈ references, ∀ declaration ∈ model.lookup? r,
      declaration.parameterNames.Nodup ∧
        ∀ extended ∈ declaration.interfaces ++ declaration.baseType.toList,
          extended.PlainParameters) :
    model.WellFormed reference where
  spelled r h := (spelled r (h.mem start closed)).1
  plain r h := (spelled r (h.mem start closed)).2.1
  kinds := ⟨kindOf, fun r h => (spelled r (h.mem start closed)).2.2⟩
  names r h declaration found := (declared r (h.mem start closed) declaration found).1
  extended r h declaration found := (declared r (h.mem start closed) declaration found).2

end Closed

/-- A class with a base class and an interface, which extends another one that extends it. -/
def cyclic : Compilation where
  types :=
    [{ name := "Order", qualifier := "Shop",
       baseType := some (.generic "Shop" "OrderBase" .classType [.keyword "string"]),
       interfaces := [.named "Shop" "IAuditable" .interfaceType] },
      { name := "OrderBase", qualifier := "Shop", typeParameters := [{ name := "T" }],
        interfaces := [.generic "System.Collections.Generic" "IList" .interfaceType
          [.typeParameter "T"]] },
      { name := "IAuditable", qualifier := "Shop", kind := .interfaceType,
        interfaces := [.named "Shop" "ITracked" .interfaceType] },
      { name := "ITracked", qualifier := "Shop", kind := .interfaceType,
        interfaces := [.named "Shop" "IAuditable" .interfaceType] }]

/-- The class and what is reached from it. -/
def cyclicReferences : List TypeRef :=
  [.named "Shop" "Order" .classType, .named "Shop" "IAuditable" .interfaceType,
    .named "Shop" "ITracked" .interfaceType,
    .generic "Shop" "OrderBase" .classType [.keyword "string"],
    .generic "System.Collections.Generic" "IList" .interfaceType [.keyword "string"],
    .generic "System.Collections.Generic" "ICollection" .interfaceType [.keyword "string"],
    .generic "System.Collections.Generic" "IEnumerable" .interfaceType [.keyword "string"]]

/-- The search comes to an end although interfaces extend each other. -/
theorem searchesDepthFirst_cyclic :
    {r | cyclic.Ascends (.named "Shop" "Order" .classType) r}.Finite ∧
    cyclic.WellFormed (.named "Shop" "Order" .classType) ∧
    (∀ r, cyclic.Ascends (.named "Shop" "Order" .classType) r → cyclic.KeepsAnnotations r) ∧
    cyclic.SearchesDepthFirst (.named "Shop" "Order" .classType) := by
  have start : TypeRef.named "Shop" "Order" .classType ∈ cyclicReferences := List.mem_cons_self
  have closed : ∀ r ∈ cyclicReferences, ∀ s ∈ cyclic.parents r, s ∈ cyclicReferences := by
    decide +kernel
  have finite := finite_of_closed start closed
  have wellFormed : cyclic.WellFormed (.named "Shop" "Order" .classType) :=
    .of_closed start closed
      (fun key => if key ∈ ["Shop.Order", "Shop.OrderBase`1", "string"] then .classType
        else .interfaceType)
      (by decide +kernel) (by decide +kernel)
  have keeps : ∀ r ∈ cyclicReferences, cyclic.KeepsAnnotations r := by
    unfold KeepsAnnotations
    decide +kernel
  exact ⟨finite, wellFormed, fun r h => keeps r (h.mem start closed),
    searchesDepthFirst finite wellFormed fun r h => keeps r (h.mem start closed)⟩

/-- An interface over a type parameter that extends another one over it. -/
def boxes : Compilation where
  types :=
    [{ name := "IBox", qualifier := "Shop", kind := .interfaceType,
       typeParameters := [{ name := "T" }],
       interfaces := [.generic "Shop" "IBase" .interfaceType [.typeParameter "T"]] }]

/-- A reference of that name over an annotated type parameter. -/
def overAnnotated (name : String) : TypeRef :=
  .generic "Shop" name .interfaceType [(TypeRef.typeParameter "T").asNullable]

/-- Over its own type parameter with an annotation, the interface extends the other one over the
same, but without the annotation it is another one that is found. -/
theorem not_searchesDepthFirst_annotated :
    {r | boxes.Ascends (overAnnotated "IBox") r}.Finite ∧
      boxes.WellFormed (overAnnotated "IBox") ∧
      ¬ boxes.SearchesDepthFirst (overAnnotated "IBox") := by
  have start : overAnnotated "IBox" ∈ [overAnnotated "IBox", overAnnotated "IBase"] :=
    List.mem_cons_self
  have closed : ∀ r ∈ [overAnnotated "IBox", overAnnotated "IBase"], ∀ s ∈ boxes.parents r,
      s ∈ [overAnnotated "IBox", overAnnotated "IBase"] := by decide +kernel
  refine ⟨finite_of_closed start closed, .of_closed start closed
    (fun key => if key = "T" then .typeParameter else .interfaceType) (by decide +kernel)
    (by decide +kernel), fun search => ?_⟩
  have ends : { boxes with walkLimit := 3 }.HasFiniteGraph (overAnnotated "IBox") := by
    unfold HasFiniteGraph
    decide +kernel
  have step : overAnnotated "IBase" ∈ boxes.parents (overAnnotated "IBox") := by decide +kernel
  have found := ((search.lists 3 ends).mem_iff (overAnnotated "IBase")).mpr ⟨rfl, .single step⟩
  exact absurd found (by decide +kernel)

end Compilation

end FluentGen
