import FluentGen.Proofs.EntityShape
import FluentGen.Proofs.Numerals
import FluentGen.Proofs.TypeParts
import Mathlib.Tactic.MkIffOfInductiveProp
/-!
# Type parameters in the shape of an entity

The members of an entity come from a chain of declarations that each have type parameters of their
own. Where every declaration mentions its own parameters only, none of them is left in the shape of
an entity but those that the entity itself leaves open.

## Main definitions
* `Compilation.WellScoped`: declarations mention their own type parameters only.
* `Level.IsOver`: the type parameters of a level stand for types over those of a list.
* `Entity.WellScoped`: the shape of an entity mentions its open type parameters only.

## Main statements
* `arity_of_definitionKey`: the key of a definition tells its number of type parameters.
* `Compilation.isOver_of_baseLevel?`, `Compilation.isOver_of_mem_levels`: what the type parameters
  of a base class stand for is over those that the entity leaves open.
* `Entity.wellScoped_of_resolve`: the shape behind a reference is well-scoped.
-/
namespace FluentGen

/-! ## Arities in keys -/

theorem toList_definitionKey_succ (qualifier name : String) (n : Nat) :
    ∃ before, (definitionKey qualifier name (n + 1)).toList =
      before ++ '`' :: Nat.toDigits 10 (n + 1) :=
  ⟨(if qualifier.isEmpty then "" else qualifier ++ ".").toList ++ name.toList, by
    simp [definitionKey]⟩

/-- After the last backquote of a key without an arity comes the dot in front of the name. -/
theorem definitionKey_zero_ne_succ {qualifier name : String} (plain : '`' ∉ name.toList)
    (qualifier' name' : String) (n : Nat) :
    definitionKey qualifier name 0 ≠ definitionKey qualifier' name' (n + 1) := by
  intro same
  obtain ⟨before, split⟩ := toList_definitionKey_succ qualifier' name' n
  rw [← same, definitionKey, if_pos rfl, String.append_empty] at split
  by_cases unqualified : qualifier.isEmpty
  · rw [if_pos unqualified, String.empty_append] at split
    exact plain (by simp [split])
  · rw [if_neg unqualified, String.append_assoc, String.toList_append,
      String.toList_append] at split
    have dot := (eq_of_append_cons_eq plain (notMem_toDigits (n + 1) (by decide)) split).1
    exact absurd dot (by decide)

/-- The key of a definition tells its number of type parameters. -/
theorem arity_of_definitionKey {qualifier qualifier' name name' : String} {arity arity' : Nat}
    (plain : '`' ∉ name.toList) (plain' : '`' ∉ name'.toList)
    (same : definitionKey qualifier name arity = definitionKey qualifier' name' arity') :
    arity = arity' := by
  cases arity with
  | zero =>
    cases arity' with
    | zero => rfl
    | succ n => exact (definitionKey_zero_ne_succ plain _ _ _ same).elim
  | succ m =>
    cases arity' with
    | zero => exact (definitionKey_zero_ne_succ plain' _ _ _ same.symm).elim
    | succ n =>
      obtain ⟨before, split⟩ := toList_definitionKey_succ qualifier name m
      obtain ⟨before', split'⟩ := toList_definitionKey_succ qualifier' name' n
      have digits := (eq_of_append_cons_eq (notMem_toDigits _ (by decide))
        (notMem_toDigits _ (by decide)) (split.symm.trans ((congrArg _ same).trans split'))).2
      exact toDigits_inj.mp digits

/-! ## What stands for type parameters -/

theorem mem_of_lookup {bindings : Bindings} {name : String} {bound : TypeRef}
    (h : bindings.lookup name = some bound) : (name, bound) ∈ bindings := by
  obtain ⟨before, after, rfl, -⟩ := List.lookup_eq_some_iff.mp h
  simp

namespace NamedType

variable {declaration : NamedType} {reference : TypeRef} {name : String} {bound : TypeRef}

/-- The names of the type parameters. -/
def parameterNames (declaration : NamedType) : List String :=
  declaration.typeParameters.map (·.name)

theorem mem_bindingsFor_iff :
    (name, bound) ∈ declaration.bindingsFor reference ↔
      (name, bound) ∈ declaration.parameterNames.zip reference.arguments ∧
        ¬ (bound.kind = .typeParameter ∧ bound.name = name) := by
  simp [bindingsFor, parameterNames, imp_iff_not_or]

theorem mem_arguments_of_lookup
    (h : (declaration.bindingsFor reference).lookup name = some bound) :
    bound ∈ reference.arguments :=
  (List.of_mem_zip (mem_bindingsFor_iff.mp (mem_of_lookup h)).1).2

/-- A type parameter is left unbound only if it is among the arguments itself. -/
theorem exists_argument_of_lookup
    (arity : reference.arguments.length = declaration.typeParameters.length)
    (declared : name ∈ declaration.parameterNames)
    (h : (declaration.bindingsFor reference).lookup name = none) :
    ∃ argument ∈ reference.arguments, argument.kind = .typeParameter ∧ argument.name = name := by
  obtain ⟨i, hi, rfl⟩ := List.getElem_of_mem declared
  have hi' : i < reference.arguments.length := by
    simpa [parameterNames, arity] using hi
  refine ⟨reference.arguments[i], List.getElem_mem hi', ?_⟩
  by_contra bound
  have mem : (declaration.parameterNames[i], reference.arguments[i]) ∈
      declaration.bindingsFor reference :=
    mem_bindingsFor_iff.mpr ⟨List.mem_iff_getElem.mpr ⟨i, by simp; omega, by simp⟩, bound⟩
  simpa using List.lookup_eq_none_iff.mp h _ mem

theorem bindingsFor_selfRef (declaration : NamedType) :
    declaration.bindingsFor declaration.selfRef = [] := by
  rw [bindingsFor, selfRef, TypeRef.generic, List.zip_map', List.reverse_eq_nil_iff,
    List.filter_eq_nil_iff]
  simp [TypeRef.typeParameter, TypeRef.named, TypeRef.generic]

end NamedType

/-! ## Scopes -/

namespace NamedType

/-- Whether a declaration mentions no type parameters but its own. -/
@[mk_iff]
structure Scoped (declaration : NamedType) : Prop where
  constructors : ∀ constructor ∈ declaration.constructors, ∀ parameter ∈ constructor.parameters,
    parameter.type.Over declaration.parameterNames
  properties : ∀ property ∈ declaration.properties, property.type.Over declaration.parameterNames
  baseType : ∀ base ∈ declaration.baseType, base.Over declaration.parameterNames
  constraints : ∀ parameter ∈ declaration.typeParameters,
    ∀ constraint ∈ parameter.constraintTypes, constraint.Over declaration.parameterNames

/-- Whether a declaration has no backquote in its name and in those of its base type. -/
@[mk_iff]
structure PlainlyNamed (declaration : NamedType) : Prop where
  name : '`' ∉ declaration.name.toList
  baseType : ∀ base ∈ declaration.baseType, base.PlainlyNamed

/-- Whether no type parameter is applied to anything in what derived types inherit. -/
@[mk_iff]
structure Unapplied (declaration : NamedType) : Prop where
  properties : ∀ property ∈ declaration.properties, property.type.Unapplied
  baseType : ∀ base ∈ declaration.baseType, base.Unapplied

instance (declaration : NamedType) : Decidable declaration.Scoped :=
  decidable_of_iff _ (scoped_iff declaration).symm

instance (declaration : NamedType) : Decidable declaration.PlainlyNamed :=
  decidable_of_iff _ (plainlyNamed_iff declaration).symm

instance (declaration : NamedType) : Decidable declaration.Unapplied :=
  decidable_of_iff _ (unapplied_iff declaration).symm

end NamedType

/-- Whether all declarations of a snapshot mention only their own type parameters, have no backquote
in the names that keys are made of, and pass on no type parameter that is applied to anything. -/
@[mk_iff]
structure Compilation.WellScoped (model : Compilation) : Prop where
  parameters : ∀ declaration ∈ model.types, declaration.Scoped
  names : ∀ declaration ∈ model.types, declaration.PlainlyNamed
  unapplied : ∀ declaration ∈ model.types, declaration.Unapplied

instance (model : Compilation) : Decidable model.WellScoped :=
  decidable_of_iff _ (Compilation.wellScoped_iff model).symm

/-- Whether the type parameters of a level stand for types over the type parameters `names`. -/
structure Level.IsOver (names : List String) (level : Level) : Prop where
  bound : ∀ name type, level.bindings.lookup name = some type → type.Over names ∧ type.PlainlyNamed
  unbound : ∀ name ∈ level.declaration.parameterNames, level.bindings.lookup name = none →
    name ∈ names

variable {model : Compilation} {level base : Level} {names : List String}

namespace Level.IsOver

variable {type : TypeRef}

theorem over_substitute (h : level.IsOver names)
    (inScope : type.Over level.declaration.parameterNames) (unapplied : type.Unapplied) :
    (type.substitute level.bindings).Over names :=
  inScope.substitute_of_unapplied unapplied
    (fun name bound found => (h.bound name bound found).1)
    (fun part declared parameter unbound _ => h.unbound part.name (declared parameter) unbound)
    (fun _ _ _ other parameter => absurd parameter other)
    (fun _ _ h => h)

theorem plainlyNamed_substitute (h : level.IsOver names) (plain : type.PlainlyNamed)
    (unapplied : type.Unapplied) : (type.substitute level.bindings).PlainlyNamed :=
  plain.substitute_of_unapplied unapplied
    (fun name bound found => (h.bound name bound found).2)
    (fun _ h _ _ => h) (fun _ _ h _ => h) (fun _ _ h => h)

end Level.IsOver

namespace Compilation

theorem baseLevel?_eq_some_iff :
    model.baseLevel? level = some base ↔ ∃ written, level.declaration.baseType = some written ∧
      model.resolve? (written.substitute level.bindings) = some base.declaration ∧
      base.bindings = base.declaration.bindingsFor (written.substitute level.bindings) := by
  obtain ⟨declaration, bindings⟩ := base
  simp only [baseLevel?, Option.bind_eq_some_iff, Option.map_eq_some_iff, Level.mk.injEq]
  refine exists_congr fun written => and_congr_right fun _ => ?_
  constructor
  · rintro ⟨_, found, rfl, rfl⟩
    exact ⟨found, rfl⟩
  · rintro ⟨found, rfl⟩
    exact ⟨_, found, rfl, rfl⟩

/-- What holds of a level and passes on to the levels of base classes holds on the whole chain. -/
theorem forall_mem_levelsFrom {P : Level → Prop}
    (step : ∀ level base, P level → model.baseLevel? level = some base → P base) (bound : Nat)
    (visited : List String) (start : P level) : ∀ other ∈ model.levelsFrom bound visited level,
      P other := by
  induction bound generalizing visited level with
  | zero => simp [levelsFrom]
  | succ bound ih =>
    rw [levelsFrom]
    split
    · simp
    · cases next : model.baseLevel? level with
      | none => simpa using start
      | some base => exact List.forall_mem_cons.mpr ⟨start, ih _ (step level base start next)⟩

/-- The base class is applied to types over the parameters that its derived class is over. -/
theorem isOver_of_baseLevel? (wellScoped : model.WellScoped)
    (declared : level.declaration ∈ model.types) (h : level.IsOver names)
    (next : model.baseLevel? level = some base) : base.IsOver names := by
  obtain ⟨written, extended, found, bindings⟩ := baseLevel?_eq_some_iff.mp next
  have bare := (wellScoped.unapplied _ declared).baseType written extended
  have inScope := h.over_substitute
    ((wellScoped.parameters _ declared).baseType written extended) bare
  have named := h.plainlyNamed_substitute
    ((wellScoped.names _ declared).baseType written extended) bare
  generalize written.substitute level.bindings = closed at found bindings inScope named
  obtain ⟨-, overArguments⟩ := TypeRef.everywhere_iff.mp inScope
  obtain ⟨closedName, namedArguments⟩ := TypeRef.everywhere_iff.mp named
  have arity : closed.arguments.length = base.declaration.typeParameters.length :=
    arity_of_definitionKey closedName (wellScoped.names _ (mem_of_find? found)).name
      (key_of_find? found).symm
  constructor
  · intro name type bound
    rw [bindings] at bound
    have argument := NamedType.mem_arguments_of_lookup bound
    exact ⟨overArguments type argument, namedArguments type argument⟩
  · -- What stays unbound is an argument of the base class itself, and those are over `names`.
    intro name declared unbound
    rw [bindings] at unbound
    obtain ⟨argument, hargument, parameter, rfl⟩ :=
      NamedType.exists_argument_of_lookup arity declared unbound
    exact (TypeRef.everywhere_iff.mp (overArguments argument hargument)).1 parameter

theorem isOver_of_mem_levels (wellScoped : model.WellScoped) {start : NamedType}
    {bindings : Bindings} (declared : start ∈ model.types)
    (h : Level.IsOver names ⟨start, bindings⟩) : ∀ level ∈ model.levels start bindings,
      level.declaration ∈ model.types ∧ level.IsOver names := by
  refine forall_mem_levelsFrom ?_ _ _ ⟨declared, h⟩
  intro level base ⟨declared, h⟩ next
  obtain ⟨_, _, found, _⟩ := baseLevel?_eq_some_iff.mp next
  exact ⟨mem_of_find? found, isOver_of_baseLevel? wellScoped declared h next⟩

end Compilation

/-! ## Shapes -/

namespace Entity

/-- The types of all members. -/
def memberTypes (entity : Entity) : List TypeRef :=
  (entity.parameters ++ entity.settableProperties ++ entity.readOnlyProperties).map (·.type)

/-- The types that constrain the open type parameters. -/
def constraintTypes (entity : Entity) : List TypeRef :=
  entity.openParameters.flatMap (·.constraintTypes)

/-- The names of the open type parameters. -/
def openNames (entity : Entity) : List String :=
  entity.openParameters.map (·.name)

/-- Whether the shape of an entity mentions no type parameters but the open ones, and none at all
where the entity itself is over none. -/
@[mk_iff]
structure WellScoped (entity : Entity) : Prop where
  members : ∀ type ∈ entity.memberTypes, type.Over entity.openNames
  constraints : ∀ type ∈ entity.constraintTypes, type.Over entity.openNames
  closed : entity.type.Over [] → ∀ type ∈ entity.memberTypes, type.Over []

instance (entity : Entity) : Decidable entity.WellScoped :=
  decidable_of_iff _ (wellScoped_iff entity).symm

variable {declaration : NamedType} {reference : TypeRef} {type : TypeRef}

theorem mem_openNames_iff {name : String} :
    name ∈ (ofDeclaration model declaration type).openNames ↔
      name ∈ declaration.parameterNames ∧ (declaration.bindingsFor type).lookup name = none := by
  simp only [openNames, ofDeclaration, NamedType.parameterNames, List.mem_map, List.mem_filter,
    Option.isNone_iff_eq_none]
  constructor
  · rintro ⟨parameter, ⟨declared, unbound⟩, rfl⟩
    exact ⟨⟨parameter, declared, rfl⟩, unbound⟩
  · rintro ⟨⟨parameter, declared, rfl⟩, unbound⟩
    exact ⟨parameter, ⟨declared, unbound⟩, rfl⟩

theorem mem_arguments_of_lookup_referenceFor {name : String}
    (h : (declaration.bindingsFor (referenceFor declaration reference)).lookup name = some type) :
    type ∈ reference.arguments := by
  unfold referenceFor at h
  split at h
  · exact NamedType.mem_arguments_of_lookup h
  · simp [NamedType.bindingsFor_selfRef] at h

/-- The shape of an entity over the declaration that a reference means. -/
abbrev shape (model : Compilation) (declaration : NamedType) (reference : TypeRef) : Entity :=
  ofDeclaration model declaration (referenceFor declaration reference)

/-- An entity is over its own type parameters, which are unbound, or all of them are bound. -/
theorem selfRef_or_bound (closed : ∀ argument ∈ reference.arguments, argument.Over []) :
    (referenceFor declaration reference = declaration.selfRef ∧
        declaration.bindingsFor (referenceFor declaration reference) = []) ∨
      ∀ name ∈ declaration.parameterNames,
        (declaration.bindingsFor (referenceFor declaration reference)).lookup name ≠ none := by
  unfold referenceFor
  split
  next arity =>
    refine .inr fun name declared unbound => ?_
    obtain ⟨argument, hargument, parameter, -⟩ :=
      NamedType.exists_argument_of_lookup arity declared unbound
    exact absurd ((TypeRef.everywhere_iff.mp (closed argument hargument)).1 parameter) (by simp)
  next => exact .inl ⟨rfl, NamedType.bindingsFor_selfRef declaration⟩

section Closed

variable (closed : ∀ argument ∈ reference.arguments, argument.Over [] ∧ argument.PlainlyNamed)

include closed

theorem isOver_start : Level.IsOver (shape model declaration reference).openNames
    ⟨declaration, declaration.bindingsFor (referenceFor declaration reference)⟩ where
  bound name type found := by
    obtain ⟨inScope, plain⟩ := closed type (mem_arguments_of_lookup_referenceFor found)
    exact ⟨inScope.mono fun part none parameter => absurd (none parameter) (by simp), plain⟩
  unbound name declared unbound := mem_openNames_iff.mpr ⟨declared, unbound⟩

/-- On the level of the entity itself it does not matter what type parameters are applied to. -/
theorem over_substitute_start (inScope : type.Over declaration.parameterNames) :
    (type.substitute (declaration.bindingsFor (referenceFor declaration reference))).Over
      (shape model declaration reference).openNames := by
  obtain ⟨-, unbound⟩ | bound := selfRef_or_bound fun argument h => (closed argument h).1
  · rw [unbound, TypeRef.substitute_nil]
    refine inScope.mono fun part declared parameter => ?_
    exact mem_openNames_iff.mpr ⟨declared parameter, by rw [unbound]; rfl⟩
  · refine inScope.substitute ?_ fun _ _ _ other parameter => absurd parameter other
    intro part declared parameter
    rw [TypeRef.substitute_of_eq parameter]
    cases found : (declaration.bindingsFor
        (referenceFor declaration reference)).lookup part.name with
    | none => exact absurd found (bound part.name (declared parameter))
    | some argument =>
      exact ((isOver_start closed).bound _ _ found).1.withNullable (fun _ _ h => h) _

theorem openNames_eq_nil (inScope : (referenceFor declaration reference).Over []) :
    (shape model declaration reference).openNames = [] := by
  refine List.eq_nil_iff_forall_not_mem.mpr fun name h => ?_
  obtain ⟨declared, unbound⟩ := mem_openNames_iff.mp h
  obtain ⟨self, -⟩ | bound := selfRef_or_bound fun argument h => (closed argument h).1
  · obtain ⟨-, onArguments⟩ := TypeRef.everywhere_iff.mp (self ▸ inScope)
    obtain ⟨parameter, hparameter, rfl⟩ := List.mem_map.mp declared
    have own := onArguments _ (List.mem_map_of_mem hparameter)
    exact absurd ((TypeRef.everywhere_iff.mp own).1 rfl) (by simp)
  · exact bound name declared unbound

theorem over_of_mem_collectProperties (wellScoped : model.WellScoped)
    (declared : declaration ∈ model.types) {kind : MemberKind} {keep : Property → Bool}
    {member : Member} (h : member ∈ collectProperties (model.levels declaration
      (declaration.bindingsFor (referenceFor declaration reference))) kind keep) :
    member.type.Over (shape model declaration reference).openNames := by
  obtain ⟨level, hlevel, property, hproperty, -, rfl⟩ := exists_of_mem_collectProperties h
  obtain ⟨declared', isOver⟩ :=
    Compilation.isOver_of_mem_levels wellScoped declared (isOver_start closed) level hlevel
  exact isOver.over_substitute ((wellScoped.parameters _ declared').properties _ hproperty)
    ((wellScoped.unapplied _ declared').properties _ hproperty)

theorem over_of_mem_memberTypes (wellScoped : model.WellScoped)
    (declared : declaration ∈ model.types)
    (h : type ∈ (shape model declaration reference).memberTypes) :
    type.Over (shape model declaration reference).openNames := by
  obtain ⟨member, hmember, rfl⟩ := List.mem_map.mp h
  obtain (parameter | settable) | readOnly := by simpa only [List.mem_append] using hmember
  · obtain ⟨constructor, hconstructor, parameter, hparameter, rfl⟩ :=
      exists_of_mem_parameters parameter
    exact over_substitute_start closed
      ((wellScoped.parameters _ declared).constructors _ hconstructor _ hparameter)
  · exact over_of_mem_collectProperties closed wellScoped declared settable
  · exact over_of_mem_collectProperties closed wellScoped declared readOnly

/-- Constraints are not substituted, but a type parameter that is left open leaves all open. -/
theorem over_of_mem_constraintTypes (wellScoped : model.WellScoped)
    (declared : declaration ∈ model.types)
    (h : type ∈ (shape model declaration reference).constraintTypes) :
    type.Over (shape model declaration reference).openNames := by
  obtain ⟨parameter, hparameter, written⟩ := List.mem_flatMap.mp h
  obtain ⟨declaredParameter, unbound⟩ := List.mem_filter.mp hparameter
  obtain ⟨-, none⟩ | bound := selfRef_or_bound fun argument h => (closed argument h).1
  · refine TypeRef.Everywhere.mono
      ((wellScoped.parameters _ declared).constraints _ declaredParameter _ written) ?_
    intro part declared parameter
    exact mem_openNames_iff.mpr ⟨declared parameter, by rw [none]; rfl⟩
  · exact absurd (Option.isNone_iff_eq_none.mp unbound)
      (bound parameter.name (List.mem_map_of_mem declaredParameter))

theorem wellScoped_ofDeclaration (wellScoped : model.WellScoped)
    (declared : declaration ∈ model.types) :
    (shape model declaration reference).WellScoped where
  members _ := over_of_mem_memberTypes closed wellScoped declared
  constraints _ := over_of_mem_constraintTypes closed wellScoped declared
  closed isOver type htype := by
    rw [← openNames_eq_nil closed isOver]
    exact over_of_mem_memberTypes closed wellScoped declared htype

end Closed

/-- The shape of an entity that is over its own type parameters, or over arguments without any,
mentions no type parameters but the open ones. -/
theorem wellScoped_of_resolve (wellScoped : model.WellScoped)
    (closed : ∀ argument ∈ reference.arguments, argument.Over [] ∧ argument.PlainlyNamed)
    {entity : Entity} (h : resolve model reference = .ok entity) : entity.WellScoped := by
  obtain ⟨declaration, found, rfl⟩ := resolve_eq_ok_iff.mp h
  exact wellScoped_ofDeclaration closed wellScoped (mem_of_findDeclaration? found)

/-- A class `Box` of one type parameter that extends `base`, and a class `Base` of the given type
parameters with a property of type `value`. -/
def boxed (base : TypeRef) (parameters : List String) (value : TypeRef) : Compilation where
  types :=
    [{ name := "Box", qualifier := "Shop", typeParameters := [{ name := "T" }],
       baseType := some base },
      { name := "Base", qualifier := "Shop", typeParameters := parameters.map ({ name := · }),
        properties := [{ name := "Value", type := value, getter := some .publicAccess,
                         setter := some .publicAccess }] }]

/-- The class `Box` is over its own type parameter where it has no arguments. -/
theorem wellScoped_of_resolve_box :
    let model := boxed (.generic "Shop" "Base" .classType [.typeParameter "T", .keyword "int"])
      ["T", "U"] (.generic "" "Dictionary" .classType [.typeParameter "U", .typeParameter "T"])
    ∃ entity, resolve model (.named "Shop" "Box" .classType) = .ok entity ∧ model.WellScoped ∧
      entity.openNames = ["T"] ∧ entity.memberTypes.map (·.display) = ["Dictionary<int, T>"] ∧
      entity.WellScoped := by
  intro model
  have wellScoped : model.WellScoped := by decide
  have closed : ∀ argument ∈ (TypeRef.named "Shop" "Box" .classType).arguments,
      argument.Over [] ∧ argument.PlainlyNamed := by decide
  exact ⟨_, rfl, wellScoped, by decide, by decide, wellScoped_of_resolve wellScoped closed rfl⟩

/-- What a type parameter is applied to is not substituted, and a name with a backquote finds a
declaration without an argument for each type parameter. -/
theorem not_wellScoped_box :
    let applied := boxed
      (.generic "Shop" "Base" .classType [.typeParameter "T", .keyword "int"]) ["T", "U"]
      { TypeRef.typeParameter "T" with arguments := [.typeParameter "U"] }
    let misnamed := boxed (.named "Shop" "Base`1" .classType) ["X"] (.typeParameter "X")
    let box := TypeRef.named "Shop" "Box" .classType
    ((∀ declaration ∈ applied.types, declaration.Scoped ∧ declaration.PlainlyNamed ∧
        declaration.parameterNames.Nodup) ∧
      ∃ entity, resolve applied box = .ok entity ∧ ¬ entity.WellScoped) ∧
    (∀ declaration ∈ misnamed.types, declaration.Scoped ∧ declaration.Unapplied ∧
        '`' ∉ declaration.name.toList ∧ declaration.parameterNames.Nodup) ∧
      ∃ entity, resolve misnamed box = .ok entity ∧ ¬ entity.WellScoped :=
  ⟨⟨by decide, _, rfl, by decide⟩, by decide, _, rfl, by decide⟩

end Entity

end FluentGen
