import FluentGen.Proofs.DeclaredFramework
import FluentGen.Proofs.InterfaceSearch
import FluentGen.Proofs.Substitution
/-!
# Interfaces of constructed types

The interfaces of a generic type over given arguments are those of the type over its own parameters,
with the arguments put in the place of the parameters. The walk from the constructed type goes where
the walk from the open one goes, step by step; both pass over references of a text that has come up,
which loses nothing if references of one text are alike.

## Main definitions
* `NamedType.ExtendsProperly`: a declaration with proper references to what it extends.
* `Compilation.Closable`: a generic type that can be closed by given arguments.
* `Compilation.AgreesOnInterfaces`: references to one definition are to an interface, or none is.
* `Compilation.ClosesAlike`: the interfaces over arguments are those of the open type, closed.

## Main statements
* `Compilation.mem_map_interfaces_iff`: a walk finds the text of every interface it can reach.
* `Compilation.IsMet.supertypes_substitute`: a step from a closed reference is a closed step.
* `Compilation.closesAlike`: closing commutes with walking.
-/
namespace FluentGen

/-- What a declaration extends: its interfaces in order, then its base type. -/
def NamedType.extended (declaration : NamedType) : List TypeRef :=
  declaration.interfaces ++ declaration.baseType.toList

/-- Whether a declaration and its type parameters have proper names, and what it extends are proper
references over these, none of which is a mere type parameter. -/
@[mk_iff]
structure NamedType.ExtendsProperly (declaration : NamedType) : Prop where
  spelled : declaration.selfRef.WellSpelled
  plain : '`' ∉ declaration.name.toList
  parameters : declaration.parameterNames.Nodup
  extended : ∀ r ∈ declaration.extended, r.kind ≠ .typeParameter ∧ r.WellSpelled ∧
    '`' ∉ r.name.toList ∧ r.UsesOnly declaration.parameterNames

instance (declaration : NamedType) : Decidable declaration.ExtendsProperly :=
  decidable_of_iff' _ (NamedType.extendsProperly_iff declaration)

theorem NamedType.selfRef_eq_constructed (declaration : NamedType) :
    declaration.selfRef =
      declaration.constructed (declaration.parameterNames.map TypeRef.typeParameter) := by
  rw [selfRef, constructed, parameterNames, List.map_map]
  rfl

theorem TypeRef.UsesOnly.plainParameters {names : List String} {type : TypeRef}
    (uses : type.UsesOnly names) : type.PlainParameters :=
  Everywhere.mono uses fun part used parameter => by
    obtain ⟨name, -, rfl⟩ := List.mem_map.mp (used parameter)
    rfl

namespace Compilation

/-- Whether a declared or known type can be closed by arguments: it is no type parameter itself, all
declarations extend what is proper, nothing they name but type parameters has the text of one of its type
parameters, finitely many references are reached from it, and there is an argument without type
parameters for each of its own. -/
structure Closable (model : Compilation) (declaration : NamedType) (arguments : List TypeRef) :
    Prop where
  declared : declaration ∈ model.types ++ Framework.definitions
  kind : declaration.kind ≠ .typeParameter
  proper : ∀ other ∈ model.types, other.ExtendsProperly
  apart : ∀ other ∈ model.types, ∀ r ∈ other.extended, r.TellsApart declaration.parameterNames
  finite : {r | model.Reaches declaration.selfRef r}.Finite
  arity : arguments.length = declaration.typeParameters.length
  closed : ∀ argument ∈ arguments, argument.Over []

/-- The references to definitions that a walk from a declaration can meet, with other arguments. -/
def heads (model : Compilation) (declaration : NamedType) : List TypeRef :=
  declaration.selfRef :: (model.types ++ Framework.definitions).flatMap NamedType.extended

/-- Whether references to one definition are to an interface, or none of them is. -/
def AgreesOnInterfaces (model : Compilation) (declaration : NamedType) : Prop :=
  ∀ r ∈ model.heads declaration, ∀ s ∈ model.heads declaration,
    r.key = s.key → r.isInterface = s.isInterface

instance (model : Compilation) (declaration : NamedType) :
    Decidable (model.AgreesOnInterfaces declaration) :=
  inferInstanceAs (Decidable (∀ r ∈ _, ∀ s ∈ _, _))

/-- The walks from a declaration over its own parameters and over given arguments come to an end,
and the second finds the texts of what the first finds, with the arguments in their places. -/
structure ClosesAlike (model : Compilation) (declaration : NamedType) (arguments : List TypeRef) :
    Prop where
  terminates : ∃ bound, ∀ limit, bound ≤ limit →
    { model with walkLimit := limit }.HasFiniteGraph declaration.selfRef ∧
      { model with walkLimit := limit }.HasFiniteGraph (declaration.constructed arguments)
  displays : ∀ limit, { model with walkLimit := limit }.HasFiniteGraph declaration.selfRef →
    { model with walkLimit := limit }.HasFiniteGraph (declaration.constructed arguments) →
      ∀ text, text ∈ ({ model with walkLimit := limit }.interfaces
          (declaration.constructed arguments)).map TypeRef.display ↔
        text ∈ ({ model with walkLimit := limit }.interfaces declaration.selfRef).map fun r : TypeRef =>
          (r.substitute (declaration.parameterNames.zip arguments)).display

variable {model : Compilation} {declaration : NamedType} {reference : TypeRef}

/-! ## Walks that tell references by their texts -/

section Texts

variable {P : TypeRef → Prop} (start : P reference)
  (closed : ∀ r, P r → ∀ s ∈ model.supertypes r, P s)
  (alike : ∀ r s, P r → P s → r.display = s.display → r.isInterface = s.isInterface ∧
    (model.supertypes r).map TypeRef.display = (model.supertypes s).map TypeRef.display)
  (finite : {r | model.Reaches reference r}.Finite)
include start closed alike finite

/-- Where references of one text are alike, a search comes to the text of everything that is
reached. -/
theorem exists_search : ∃ order, DepthFirst model.supertypes [] [reference] order ∧
    (∀ r ∈ order, P r ∧ model.Reaches reference r) ∧
      ∀ r, model.Reaches reference r → P r ∧ ∃ s ∈ order, s.display = r.display := by
  obtain ⟨order, search⟩ := DepthFirst.exists_of_finite
    (P := model.Reaches reference) (fun r reached s hs => reached.tail hs)
    (finite.toFinset.image TypeRef.display)
    (fun r reached => Finset.mem_image_of_mem _ (finite.mem_toFinset.mpr reached)) []
    [reference] (List.forall_mem_singleton.mpr .refl)
  have visited : ∀ r ∈ order, P r ∧ model.Reaches reference r :=
    search.forall_mem (fun r met s hs => ⟨closed r met.1 s hs, met.2.tail hs⟩)
      (List.forall_mem_singleton.mpr ⟨start, .refl⟩)
  obtain ⟨first, covered⟩ := search.covers
  refine ⟨order, search, visited, fun r reached => ?_⟩
  induction reached with
  | refl => exact ⟨start, by simpa using first⟩
  | @tail r s _ hs ih =>
    -- The reference is extended by one of a text that comes up, so its own text comes up.
    obtain ⟨met, r', hr', same⟩ := ih
    have extends' := (alike r' r (visited r' hr').1 met same).2
    have text : s.display ∈ (model.supertypes r').map TypeRef.display :=
      extends' ▸ List.mem_map_of_mem hs
    obtain ⟨s', hs', same'⟩ := List.mem_map.mp text
    have seen := covered r' hr' s' hs'
    rw [same'] at seen
    exact ⟨closed r met s hs, by simpa using seen⟩

theorem exists_bound_hasFiniteGraph : ∃ bound, ∀ limit, bound ≤ limit →
    { model with walkLimit := limit }.HasFiniteGraph reference := by
  obtain ⟨order, search, -⟩ := exists_search start closed alike finite
  exact ⟨_, fun limit enough => search.hasFiniteGraph (fun _ _ => rfl) enough⟩

/-- The walk finds the texts of all interfaces that are reached, and whatever follows from texts. -/
theorem mem_map_interfaces_iff {β : Type} {f : TypeRef → β}
    (respects : ∀ r s, P r → P s → r.display = s.display → f r = f s) {limit : Nat}
    (ends : { model with walkLimit := limit }.HasFiniteGraph reference) {value : β} :
    value ∈ ({ model with walkLimit := limit }.interfaces reference).map f ↔
      ∃ r, model.Reaches reference r ∧ r.isInterface = true ∧ f r = value := by
  obtain ⟨order, search, visited, texts⟩ := exists_search start closed alike finite
  have found : { model with walkLimit := limit }.interfaces reference =
      order.filter (·.isInterface) := search.interfaces_eq (fun _ _ => rfl) ends
  rw [found, List.mem_map]
  constructor
  · rintro ⟨r, hr, rfl⟩
    obtain ⟨hr, interface⟩ := List.mem_filter.mp hr
    exact ⟨r, (visited r hr).2, interface, rfl⟩
  · rintro ⟨r, reached, interface, rfl⟩
    obtain ⟨met, s, hs, same⟩ := texts r reached
    have met' := (visited s hs).1
    refine ⟨s, List.mem_filter.mpr ⟨hs, ?_⟩, respects s r met' met same⟩
    exact (alike s r met' met same).1.trans interface

end Texts

/-- References that extend each other only are finitely many. -/
theorem finite_reaches (references : List TypeRef) (start : reference ∈ references)
    (closed : ∀ r ∈ references, ∀ s ∈ model.supertypes r, s ∈ references) :
    {r | model.Reaches reference r}.Finite :=
  references.finite_toSet.subset fun _ reached => reached.mem references start closed

/-! ## What a walk meets -/

/-- A reference that a walk from a declaration meets, where `names` are the type parameters that the
walk leaves open: a proper reference over these, to a definition that is referred to. -/
structure IsMet (model : Compilation) (declaration : NamedType) (names : List String)
    (r : TypeRef) : Prop where
  spelled : r.WellSpelled
  uses : r.UsesOnly names
  apart : r.TellsApart names
  kind : r.kind ≠ .typeParameter
  plain : '`' ∉ r.name.toList
  head : ∃ s ∈ model.heads declaration, s.key = r.key ∧ s.isInterface = r.isInterface

theorem extendsProperly_of_mem_definitions :
    ∀ definition ∈ Framework.definitions, definition.ExtendsProperly := by
  decide +kernel

section Walk

variable {names : List String} {r s : TypeRef}
  (proper : ∀ other ∈ model.types, other.ExtendsProperly)
  (apart : ∀ other ∈ model.types ++ Framework.definitions, ∀ r ∈ other.extended, r.TellsApart names)
include proper

theorem extendsProperly_of_lookup? {other : NamedType} (found : model.lookup? r = some other) :
    other.ExtendsProperly := by
  rcases List.mem_append.mp (mem_of_lookup? found) with declared | known
  · exact proper other declared
  · exact extendsProperly_of_mem_definitions other known

/-- The declaration behind a reference has as many type parameters as the reference has arguments. -/
theorem length_arguments_of_lookup? {other : NamedType} (plain : '`' ∉ r.name.toList)
    (found : model.lookup? r = some other) :
    r.arguments.length = other.parameterNames.length := by
  have plain' := (extendsProperly_of_lookup? proper found).plain
  rw [NamedType.parameterNames, List.length_map]
  exact arity_of_definitionKey plain plain' (key_of_lookup? found).symm

/-- No argument that is a type parameter has an annotation to lose. -/
theorem IsMet.supertypes_eq (met : model.IsMet declaration names r) :
    model.supertypes r = model.parents r := by
  refine (supertypes_eq_parents_iff met.uses.plainParameters ?_ ?_).mpr ?_
  · exact fun other found => (extendsProperly_of_lookup? proper found).parameters
  · intro other found extended hextended
    have extends' := (extendsProperly_of_lookup? proper found).extended extended hextended
    exact extends'.2.2.2.plainParameters
  · intro other found extended hextended part _ _ mem
    have argument := (List.of_mem_zip mem).2
    have used := (TypeRef.everywhere_iff.mp met.uses).2 _ argument
    obtain ⟨name, -, same⟩ := List.mem_map.mp ((TypeRef.everywhere_iff.mp used).1 rfl)
    exact absurd (congrArg TypeRef.nullable same) nofun

/-- What is extended over the arguments of a reference is extended with these in the places of the
type parameters. -/
theorem IsMet.mem_supertypes_iff (met : model.IsMet declaration names r) :
    s ∈ model.supertypes r ↔ ∃ other ∈ model.lookup? r, ∃ extended ∈ other.extended,
      s = extended.substitute (other.parameterNames.zip r.arguments) := by
  rw [met.supertypes_eq proper, parents]
  cases found : model.lookup? r with
  | none => simp
  | some other => simp [NamedType.extended, eq_comm, or_and_right, exists_or]

include apart in
/-- A step from what a walk meets goes to what it meets. -/
theorem IsMet.step (met : model.IsMet declaration names r) (h : s ∈ model.supertypes r) :
    model.IsMet declaration names s := by
  obtain ⟨other, found, extended, hextended, rfl⟩ := (met.mem_supertypes_iff proper).mp h
  have extends' := (extendsProperly_of_lookup? proper found).extended extended hextended
  obtain ⟨kind, spelled, plain, uses⟩ := extends'
  have count := length_arguments_of_lookup? proper met.plain found
  have mem := mem_of_lookup? found
  have onArguments := fun argument h => (TypeRef.everywhere_iff.mp met.spelled).2 argument h
  refine ⟨?_, ?_, ?_, ?_, ?_, extended, ?_, ?_, ?_⟩
  · refine spelled.substitute_zip uses count onArguments ?_
    intro part replaced spelled _ same
    unfold TypeRef.IsSpelled at spelled ⊢
    rwa [same]
  · refine uses.substitute_zip uses count (TypeRef.everywhere_iff.mp met.uses).2 ?_
    exact fun part replaced _ other _ parameter => absurd parameter other
  · refine (apart other mem extended hextended).substitute_zip uses count
      (TypeRef.everywhere_iff.mp met.apart).2 ?_
    intro part replaced told _ same like
    refine told ⟨like.1, ?_, like.2.2⟩
    rw [← List.length_eq_zero_iff, ← same, List.length_eq_zero_iff]
    exact like.2.1
  · rw [TypeRef.substitute_of_ne kind]
    exact kind
  · rw [TypeRef.substitute_of_ne kind]
    exact plain
  · exact List.mem_cons_of_mem _ (List.mem_flatMap_of_mem mem hextended)
  · exact (TypeRef.key_substitute kind).symm
  · exact (TypeRef.isInterface_substitute kind).symm

include apart in
theorem IsMet.of_reaches (met : model.IsMet declaration names r) (reached : model.Reaches r s) :
    model.IsMet declaration names s := by
  induction reached with
  | refl => exact met
  | tail _ extended ih => exact ih.step proper apart extended

/-- References of one text that a walk meets are alike in what they are and in what they extend. -/
theorem IsMet.alike (agree : model.AgreesOnInterfaces declaration)
    (met : model.IsMet declaration names r) (met' : model.IsMet declaration names s)
    (same : r.display = s.display) : r.isInterface = s.isInterface ∧
      (model.supertypes r).map TypeRef.display = (model.supertypes s).map TypeRef.display := by
  have unkinded := TypeRef.unkinded_eq_of_display_eq met.spelled met'.spelled same
  have key := TypeRef.key_eq_of_unkinded_eq unkinded
  constructor
  · obtain ⟨head, hhead, headKey, headInterface⟩ := met.head
    obtain ⟨head', hhead', headKey', headInterface'⟩ := met'.head
    rw [← headInterface, ← headInterface']
    exact agree head hhead head' hhead' (headKey.trans (key.trans headKey'.symm))
  · have found : model.lookup? r = model.lookup? s := by
      rw [lookup?, lookup?, resolve?, resolve?, key]
    rw [met.supertypes_eq proper, met'.supertypes_eq proper, parents, parents, found]
    cases model.lookup? s with
    | none => rfl
    | some other =>
      have arguments : r.arguments.map TypeRef.unkinded = s.arguments.map TypeRef.unkinded := by
        rw [TypeRef.unkinded_eq, TypeRef.unkinded_eq] at unkinded
        exact congrArg TypeRef.arguments unkinded
      simp only [List.map_map]
      refine List.map_congr_left fun extended _ => TypeRef.display_eq_of_unkinded_eq ?_
      refine TypeRef.unkinded_substitute_congr fun name => ?_
      rw [← Bindings.lookup_map, ← Bindings.lookup_map, ← List.zip_map_right, ← List.zip_map_right,
        arguments]

omit proper in
/-- References of one text that a walk meets have one text when they are closed. -/
theorem IsMet.display_substitute {bindings : Bindings} (met : model.IsMet declaration names r)
    (met' : model.IsMet declaration names s) (same : r.display = s.display) :
    (r.substitute bindings).display = (s.substitute bindings).display :=
  TypeRef.display_eq_of_unkinded_eq (TypeRef.unkinded_substitute met.uses met'.uses met.apart
    met'.apart (TypeRef.unkinded_eq_of_display_eq met.spelled met'.spelled same))

/-- What a closed reference extends is what the open one does, closed. -/
theorem IsMet.supertypes_substitute {bindings : Bindings} {closedNames : List String}
    (met : model.IsMet declaration names r)
    (met' : model.IsMet declaration closedNames (r.substitute bindings)) :
    model.supertypes (r.substitute bindings) =
      (model.supertypes r).map (TypeRef.substitute bindings) := by
  have found : model.lookup? (r.substitute bindings) = model.lookup? r := by
    rw [lookup?, lookup?, resolve?, resolve?, TypeRef.key_substitute met.kind]
  rw [met.supertypes_eq proper, met'.supertypes_eq proper, parents, parents, found]
  cases known : model.lookup? r with
  | none => rfl
  | some other =>
    have count := length_arguments_of_lookup? proper met.plain known
    simp only [List.map_map]
    refine List.map_congr_left fun extended hextended => ?_
    have extends' := (extendsProperly_of_lookup? proper known).extended extended hextended
    rw [Function.comp_apply, TypeRef.substitute_zip_substitute extends'.2.2.2 count,
      TypeRef.substitute_of_ne met.kind]

end Walk

section Closing

variable {arguments : List TypeRef} {r : TypeRef}
  (proper : ∀ other ∈ model.types, other.ExtendsProperly)
  (own : declaration.ExtendsProperly) (kind : declaration.kind ≠ .typeParameter)

/-- The framework names no type that has the text of a type parameter. -/
theorem tellsApart_of_mem_definitions (names : List String) :
    ∀ definition ∈ Framework.definitions, ∀ r ∈ definition.extended, r.TellsApart names := by
  have qualified : ∀ definition ∈ Framework.definitions, ∀ r ∈ definition.extended,
      r.Everywhere fun part => part.kind ≠ .typeParameter → part.qualifier ≠ none := by decide
  intro definition hdefinition r hr
  refine (qualified definition hdefinition r hr).mono fun part named like => ?_
  by_contra other
  exact named other like.1

/-- There is nothing to tell apart where no type parameters are left. -/
theorem tellsApart_nil (model : Compilation) : ∀ other ∈ model.types ++ Framework.definitions,
    ∀ r ∈ other.extended, r.TellsApart [] :=
  fun _ _ _ _ _ _ like => absurd like.2.2 List.not_mem_nil

include own kind in
theorem isMet_selfRef : model.IsMet declaration declaration.parameterNames declaration.selfRef where
  spelled := own.spelled
  uses := by
    refine TypeRef.everywhere_iff.mpr ⟨fun parameter => absurd parameter kind, ?_⟩
    refine List.forall_mem_map.mpr fun parameter mem => ?_
    exact TypeRef.everywhere_iff.mpr
      ⟨fun _ => List.mem_map_of_mem (List.mem_map_of_mem mem), nofun⟩
  apart := by
    refine TypeRef.everywhere_iff.mpr ⟨fun like => ?_, ?_⟩
    · have none : declaration.parameterNames = [] :=
        List.map_eq_nil_iff.mpr (List.map_eq_nil_iff.mp like.2.1)
      exact absurd (none ▸ like.2.2) List.not_mem_nil
    · refine List.forall_mem_map.mpr fun parameter _ => ?_
      exact TypeRef.everywhere_iff.mpr ⟨fun _ => rfl, nofun⟩
  kind := kind
  plain := own.plain
  head := ⟨_, List.mem_cons_self, rfl, rfl⟩

section Arguments

variable (arity : arguments.length = declaration.typeParameters.length)
  (closed : ∀ argument ∈ arguments, argument.Over [])
  (spelled : ∀ argument ∈ arguments, argument.WellSpelled)
include own kind arity

theorem substitute_selfRef : declaration.selfRef.substitute
    (declaration.parameterNames.zip arguments) = declaration.constructed arguments := by
  have count : arguments.length = declaration.parameterNames.length := by
    rw [arity, NamedType.parameterNames, List.length_map]
  rw [NamedType.selfRef_eq_constructed, NamedType.constructed, TypeRef.substitute_generic kind,
    TypeRef.map_substitute_zip own.parameters count, NamedType.constructed]

include closed spelled

theorem isMet_constructed : model.IsMet declaration [] (declaration.constructed arguments) where
  spelled := by
    refine TypeRef.everywhere_iff.mpr ⟨?_, spelled⟩
    have here := (TypeRef.everywhere_iff.mp own.spelled).1
    unfold TypeRef.IsSpelled at here ⊢
    simpa [NamedType.selfRef, NamedType.constructed, TypeRef.generic, arity] using here
  uses := by
    refine TypeRef.everywhere_iff.mpr ⟨fun parameter => absurd parameter kind, ?_⟩
    intro argument mem
    refine (closed argument mem).mono fun part none parameter => ?_
    exact absurd (none parameter) List.not_mem_nil
  apart := fun _ _ like => absurd like.2.2 List.not_mem_nil
  kind := kind
  plain := own.plain
  head := by
    refine ⟨_, List.mem_cons_self, ?_, rfl⟩
    rw [NamedType.key_constructed arity, NamedType.selfRef, TypeRef.key_generic, List.length_map]
    rfl

include proper

/-- The walk over arguments goes where the open walk goes, closed. -/
theorem reaches_constructed_iff
    (apart : ∀ other ∈ model.types ++ Framework.definitions, ∀ r ∈ other.extended,
      r.TellsApart declaration.parameterNames) :
    model.Reaches (declaration.constructed arguments) r ↔ ∃ s, model.Reaches declaration.selfRef s ∧
      r = s.substitute (declaration.parameterNames.zip arguments) := by
  have start : model.IsMet declaration declaration.parameterNames declaration.selfRef :=
    isMet_selfRef own kind
  have start' : model.IsMet declaration [] (declaration.constructed arguments) :=
    isMet_constructed own kind arity closed spelled
  have extends' : ∀ s, model.Reaches declaration.selfRef s → model.Reaches
      (declaration.constructed arguments)
        (s.substitute (declaration.parameterNames.zip arguments)) →
      model.supertypes (s.substitute (declaration.parameterNames.zip arguments)) =
        (model.supertypes s).map (TypeRef.substitute (declaration.parameterNames.zip arguments)) :=
    fun s reached reached' => (start.of_reaches proper apart reached).supertypes_substitute proper
      (start'.of_reaches proper (tellsApart_nil model) reached')
  constructor
  · intro reached
    induction reached with
    | refl => exact ⟨_, .refl, (substitute_selfRef own kind arity).symm⟩
    | tail reached' extended ih =>
      obtain ⟨s, reached, rfl⟩ := ih
      rw [extends' s reached reached'] at extended
      obtain ⟨t, ht, rfl⟩ := List.mem_map.mp extended
      exact ⟨t, reached.tail ht, rfl⟩
  · rintro ⟨s, reached, rfl⟩
    induction reached with
    | refl => exact substitute_selfRef own kind arity ▸ .refl
    | tail reached extended ih =>
      refine ih.tail ?_
      rw [extends' _ reached ih]
      exact List.mem_map_of_mem extended

end Arguments

end Closing

/-- Closing commutes with walking: the interfaces of a generic type over closed arguments have the
texts of those of the open type, with the arguments in the places of its parameters. -/
theorem closesAlike {arguments : List TypeRef} (closable : model.Closable declaration arguments)
    (agree : model.AgreesOnInterfaces declaration)
    (spelled : ∀ argument ∈ arguments, argument.WellSpelled) :
    model.ClosesAlike declaration arguments := by
  obtain ⟨declared, kind, proper, apart, finite, arity, closed⟩ := closable
  have own : declaration.ExtendsProperly := by
    rcases List.mem_append.mp declared with declared | known
    · exact proper declaration declared
    · exact extendsProperly_of_mem_definitions declaration known
  have apartAll : ∀ other ∈ model.types ++ Framework.definitions, ∀ r ∈ other.extended,
      r.TellsApart declaration.parameterNames :=
    List.forall_mem_append.mpr ⟨apart, tellsApart_of_mem_definitions _⟩
  have start : model.IsMet declaration declaration.parameterNames declaration.selfRef :=
    isMet_selfRef own kind
  have start' : model.IsMet declaration [] (declaration.constructed arguments) :=
    isMet_constructed own kind arity closed spelled
  have reaches := fun r => reaches_constructed_iff (r := r) proper own kind arity closed spelled apartAll
  have interface : ∀ r, model.Reaches declaration.selfRef r →
      (r.substitute (declaration.parameterNames.zip arguments)).isInterface = r.isInterface :=
    fun r reached => TypeRef.isInterface_substitute (start.of_reaches proper apartAll reached).kind
  have finite' : {r | model.Reaches (declaration.constructed arguments) r}.Finite := by
    refine (finite.image (TypeRef.substitute (declaration.parameterNames.zip arguments))).subset ?_
    intro r reached
    obtain ⟨s, reached', rfl⟩ := (reaches r).mp reached
    exact Set.mem_image_of_mem _ reached'
  have step : ∀ r, model.IsMet declaration declaration.parameterNames r →
      ∀ s ∈ model.supertypes r, model.IsMet declaration declaration.parameterNames s :=
    fun _ met _ => met.step proper apartAll
  have step' : ∀ r, model.IsMet declaration [] r → ∀ s ∈ model.supertypes r,
      model.IsMet declaration [] s :=
    fun _ met _ => met.step proper (tellsApart_nil model)
  obtain ⟨bound, ends⟩ := exists_bound_hasFiniteGraph start step
    (fun _ _ met => met.alike proper agree) finite
  obtain ⟨bound', ends'⟩ := exists_bound_hasFiniteGraph start' step'
    (fun _ _ met => met.alike proper agree) finite'
  refine ⟨⟨max bound bound', fun limit enough => ⟨ends limit (le_of_max_le_left enough),
    ends' limit (le_of_max_le_right enough)⟩⟩, fun limit ends ends' text => ?_⟩
  rw [mem_map_interfaces_iff start step (fun _ _ met => met.alike proper agree) finite
      (fun _ _ => IsMet.display_substitute) ends,
    mem_map_interfaces_iff start' step' (fun _ _ met => met.alike proper agree) finite'
      (fun _ _ _ _ same => same) ends']
  constructor
  · rintro ⟨r, reached, found, rfl⟩
    obtain ⟨s, reached', rfl⟩ := (reaches r).mp reached
    exact ⟨s, reached', (interface s reached').symm.trans found, rfl⟩
  · rintro ⟨r, reached, found, rfl⟩
    exact ⟨_, (reaches _).mpr ⟨r, reached, rfl⟩, (interface r reached).trans found, rfl⟩

/-- A class over two type parameters, with an interface that has its parameters in the other order
and is a collection of the first. -/
def stores : Compilation where
  types :=
    [{ name := "Store", qualifier := "Shop",
       typeParameters := [{ name := "TKey" }, { name := "TItem" }],
       interfaces := [.generic "Shop" "IStore" .interfaceType
         [.typeParameter "TItem", .typeParameter "TKey"]] },
      { name := "IStore", qualifier := "Shop", kind := .interfaceType,
        typeParameters := [{ name := "T" }, { name := "TKey" }],
        interfaces := [Framework.interfaceOf "ICollection" [.typeParameter "T"]] }]

theorem closesAlike_stores :
    let store := stores.types.head (by decide)
    let arguments := [(TypeRef.keyword "int").asNullable, .keyword "string"]
    stores.Closable store arguments ∧ stores.AgreesOnInterfaces store ∧
      (∀ argument ∈ arguments, argument.WellSpelled) ∧ stores.ClosesAlike store arguments := by
  intro store arguments
  have closable : stores.Closable store arguments :=
    { declared := by decide
      kind := by decide
      proper := by decide
      apart := by decide
      finite := finite_reaches
        [store.selfRef,
          .generic "Shop" "IStore" .interfaceType [.typeParameter "TItem", .typeParameter "TKey"],
          Framework.interfaceOf "ICollection" [.typeParameter "TItem"],
          Framework.interfaceOf "IEnumerable" [.typeParameter "TItem"]] (.head _) (by decide)
      arity := rfl
      closed := by decide }
  have agree : stores.AgreesOnInterfaces store := by decide +kernel
  have spelled : ∀ argument ∈ arguments, argument.WellSpelled := by decide
  exact ⟨closable, agree, spelled, closesAlike closable agree spelled⟩

/-- A class of the namespace `Shop` over `T` that implements bags of given contents. -/
def ofBags (bags : List (TypeKind × List TypeRef)) : NamedType where
  name := "Box"
  qualifier := "Shop"
  typeParameters := [{ name := "T" }]
  interfaces := bags.map fun (kind, contents) => .generic "Shop" "IBag" kind contents

/-- A reference to a bag that does not pass for one to an interface hides one that does, once both
are over the same argument. An argument that is called like two hides a bag of two. -/
theorem not_closesAlike_bags :
    let mixed := ofBags
      [(.classType, [.typeParameter "T"]), (.interfaceType, [.keyword "int"])]
    let pairs := ofBags [(.interfaceType, [.typeParameter "T"]),
      (.interfaceType, [.keyword "int", .keyword "string"])]
    let bag : NamedType :=
      { name := "IBag", qualifier := "Shop", kind := .interfaceType,
        typeParameters := [{ name := "A" }, { name := "B" }],
        interfaces := [.named "Shop" "IEnd" .interfaceType] }
    let two := TypeRef.named "" "int, string" .classType
    (Closable { types := [mixed] } mixed [.keyword "int"] ∧ (TypeRef.keyword "int").WellSpelled ∧
      ¬ ClosesAlike { types := [mixed] } mixed [.keyword "int"]) ∧
    (Closable { types := [pairs, bag] } pairs [two] ∧
      AgreesOnInterfaces { types := [pairs, bag] } pairs ∧
      ¬ ClosesAlike { types := [pairs, bag] } pairs [two]) := by
  intro mixed pairs bag two
  refine ⟨⟨?_, by decide, fun alike => ?_⟩, ⟨?_, ?_, fun alike => ?_⟩⟩
  · exact
      { declared := by decide
        kind := by decide
        proper := by decide
        apart := by decide
        finite := finite_reaches (mixed.selfRef :: mixed.interfaces) (.head _)
          (by decide)
        arity := rfl
        closed := by decide }
  · have texts := alike.displays 10 (by decide +kernel) (by decide +kernel) "Shop.IBag<int>"
    exact absurd texts (by decide +kernel)
  · exact
      { declared := by decide
        kind := by decide
        proper := by decide
        apart := by decide
        finite := finite_reaches
          (pairs.selfRef :: (pairs.interfaces ++ bag.interfaces)) (.head _) (by decide)
        arity := rfl
        closed := by decide }
  · decide +kernel
  · have texts := alike.displays 10 (by decide +kernel) (by decide +kernel) "Shop.IEnd"
    exact absurd texts (by decide +kernel)

end Compilation

end FluentGen
