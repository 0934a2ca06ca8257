import FluentGen.Options
/-!
# Merged layers

Whatever number of layers there is, every option has the value that the last layer gives it which
sets it. Hence the options of consecutive layers may be merged on their own first, and layers that
set nothing may be left out.

## Main definitions
* `OptionKey`, `OptionKey.get?`: the single options of all domains.
* `OptionKey.IsLastSet`: the value that the last of several layers gives an option.

## Main statements
* `OptionKey.get?_overlay`, `Options.ext_get?`: an overlay is known by its single options.
* `Options.read_foldl`: what the options laid over each other by a fold come to.
* `Options.merged_lastSet`: what several layers come to, and the laws that follow.
-/
namespace FluentGen

/-- The single options of all domains, by the type of their values. -/
inductive OptionKey : Type → Type where
  | methodPrefix : OptionKey String
  | defaultCreator : OptionKey Bool
  | nullableStrategy : OptionKey NullableStrategy
  | unreachableSetters : OptionKey Bool
  | implicitCast : OptionKey Bool
  | factoryMethod : OptionKey String
  | creatorProperty : OptionKey Bool
  | emptyCollections : OptionKey Bool
  | mockingStrategy : OptionKey InterfaceStrategy
  | mockTypeFormat : OptionKey String
  | mockValueFormat : OptionKey String
  | mockObjectFormat : OptionKey String
  | mockingNamespaces : OptionKey String
  | fixtureStrategy : OptionKey InterfaceStrategy
  | fixtureTypeName : OptionKey String
  | fixtureCreateFormat : OptionKey String
  | fixtureArguments : OptionKey String
  | fixtureSetup : OptionKey String
  | fixtureNamespaces : OptionKey String

namespace OptionKey

variable {α : Type}

/-- What an option is set to. -/
def get? : OptionKey α → Options → Option α
  | .methodPrefix, options => options.builder.methodPrefix
  | .defaultCreator, options => options.builder.defaultCreator
  | .nullableStrategy, options => options.builder.nullableStrategy
  | .unreachableSetters, options => options.builder.unreachableSetters
  | .implicitCast, options => options.builder.implicitCast
  | .factoryMethod, options => options.builder.factoryMethod
  | .creatorProperty, options => options.builder.creatorProperty
  | .emptyCollections, options => options.builder.emptyCollections
  | .mockingStrategy, options => options.mocking.strategy
  | .mockTypeFormat, options => options.mocking.typeFormat
  | .mockValueFormat, options => options.mocking.valueFormat
  | .mockObjectFormat, options => options.mocking.objectFormat
  | .mockingNamespaces, options => options.mocking.namespaces
  | .fixtureStrategy, options => options.fixture.strategy
  | .fixtureTypeName, options => options.fixture.typeName
  | .fixtureCreateFormat, options => options.fixture.createFormat
  | .fixtureArguments, options => options.fixture.constructorArguments
  | .fixtureSetup, options => options.fixture.setup
  | .fixtureNamespaces, options => options.fixture.namespaces

/-- Whether the last of some layers that sets an option sets it to a value. -/
def IsLastSet (key : OptionKey α) (layers : List Layer) (value : α) : Prop :=
  ∃ before layer after, layers = before ++ layer :: after ∧
    key.get? layer.options = some value ∧ ∀ later ∈ after, key.get? later.options = none

theorem get?_overlay (key : OptionKey α) (outer inner : Options) :
    key.get? (outer.overlay inner) = (key.get? inner).or (key.get? outer) := by
  cases key <;> rfl

@[simp]
theorem get?_empty (key : OptionKey α) : key.get? {} = none := by
  cases key <;> rfl

end OptionKey

namespace Options

/-- There are no options but the single ones. -/
theorem ext_get? {a b : Options} (h : ∀ {α : Type} (key : OptionKey α), key.get? a = key.get? b) :
    a = b := by
  have builder : a.builder = b.builder :=
    (BuilderOptions.mk.injEq ..).mpr ⟨h .methodPrefix, h .defaultCreator, h .nullableStrategy,
      h .unreachableSetters, h .implicitCast, h .factoryMethod, h .creatorProperty,
      h .emptyCollections⟩
  have mocking : a.mocking = b.mocking :=
    (MockingOptions.mk.injEq ..).mpr ⟨h .mockingStrategy, h .mockTypeFormat, h .mockValueFormat,
      h .mockObjectFormat, h .mockingNamespaces⟩
  have fixture : a.fixture = b.fixture :=
    (FixtureOptions.mk.injEq ..).mpr ⟨h .fixtureStrategy, h .fixtureTypeName,
      h .fixtureCreateFormat, h .fixtureArguments, h .fixtureSetup, h .fixtureNamespaces⟩
  exact (Options.mk.injEq ..).mpr ⟨builder, mocking, fixture⟩

/-! ## Overlays -/

theorem overlay_assoc (a b c : Options) : (a.overlay b).overlay c = a.overlay (b.overlay c) :=
  ext_get? fun key => by simp only [key.get?_overlay, Option.or_assoc]

instance : Std.Associative Options.overlay where
  assoc := overlay_assoc

instance : Std.LawfulIdentity Options.overlay {} where
  left_id := empty_overlay
  right_id := overlay_empty

-- The options of one domain are options of all domains, of which the others are unset.

instance : Std.Associative BuilderOptions.overlay where
  assoc a b c := congrArg builder (overlay_assoc { builder := a } { builder := b } { builder := c })

instance : Std.LawfulIdentity BuilderOptions.overlay {} where
  left_id a := congrArg builder (empty_overlay { builder := a })
  right_id a := congrArg builder (overlay_empty { builder := a })

instance : Std.Associative MockingOptions.overlay where
  assoc a b c := congrArg mocking (overlay_assoc { mocking := a } { mocking := b } { mocking := c })

instance : Std.LawfulIdentity MockingOptions.overlay {} where
  left_id a := congrArg mocking (empty_overlay { mocking := a })
  right_id a := congrArg mocking (overlay_empty { mocking := a })

instance : Std.Associative FixtureOptions.overlay where
  assoc a b c := congrArg fixture (overlay_assoc { fixture := a } { fixture := b } { fixture := c })

instance : Std.LawfulIdentity FixtureOptions.overlay {} where
  left_id a := congrArg fixture (empty_overlay { fixture := a })
  right_id a := congrArg fixture (overlay_empty { fixture := a })

theorem isEmpty_iff {options : Options} : options.isEmpty = true ↔ options = {} := by
  obtain ⟨builder, mocking, fixture⟩ := options
  simp [isEmpty, BuilderOptions.isEmpty, MockingOptions.isEmpty, FixtureOptions.isEmpty, and_assoc]

/-! ## Folds of overlays -/

/-- Of several options the last that set something decide it, and what none of them sets is left to
those outside. -/
theorem read_foldl {α : Type} {read : Options → Option α}
    (respects : ∀ outer inner, read (outer.overlay inner) = (read inner).or (read outer))
    (outer : Options) (others : List Options) :
    read (others.foldl overlay outer) = (others.reverse.findSome? read).or (read outer) := by
  induction others generalizing outer with
  | nil => rfl
  | cons first others ih =>
    simp [ih, respects, List.findSome?_append, Option.or_assoc]

variable {α : Type}

theorem get?_merged (key : OptionKey α) (layers : List Layer) :
    key.get? (merged layers) = layers.reverse.findSome? fun layer => key.get? layer.options := by
  have fold : merged layers = (layers.map (·.options)).foldl overlay {} := List.foldl_map.symm
  rw [fold, read_foldl key.get?_overlay, key.get?_empty, Option.or_none,
    ← List.map_reverse, List.findSome?_map]
  rfl

theorem get?_merged_eq_some_iff {key : OptionKey α} {layers : List Layer} {value : α} :
    key.get? (merged layers) = some value ↔ key.IsLastSet layers value := by
  rw [get?_merged, List.findSome?_eq_some_iff]
  constructor
  · rintro ⟨after, layer, before, split, here, later⟩
    refine ⟨before.reverse, layer, after.reverse, ?_, here, fun other h =>
      later other (List.mem_reverse.mp h)⟩
    simpa using congrArg List.reverse split
  · rintro ⟨before, layer, after, rfl, here, later⟩
    refine ⟨after.reverse, layer, before.reverse, by simp, here, fun other h =>
      later other (List.mem_reverse.mp h)⟩

theorem get?_merged_eq_none_iff {key : OptionKey α} {layers : List Layer} :
    key.get? (merged layers) = none ↔ ∀ layer ∈ layers, key.get? layer.options = none := by
  simp [get?_merged]

theorem merged_append (before after : List Layer) :
    merged (before ++ after) = (merged before).overlay (merged after) :=
  ext_get? fun key => by
    simp only [key.get?_overlay, get?_merged, List.reverse_append, List.findSome?_append]

theorem merged_cons (layer : Layer) (layers : List Layer) :
    merged (layer :: layers) = layer.options.overlay (merged layers) := by
  simpa [merged] using merged_append [layer] layers

/-- Layers that set nothing may be left out. -/
theorem merged_filter (layers : List Layer) :
    merged (layers.filter fun layer => !layer.options.isEmpty) = merged layers := by
  induction layers with
  | nil => rfl
  | cons layer layers ih =>
    cases empty : layer.options.isEmpty with
    | true =>
      rw [List.filter_cons_of_neg (by simp [empty]), ih, merged_cons, isEmpty_iff.mp empty,
        empty_overlay]
    | false => rw [List.filter_cons_of_pos (by simp [empty]), merged_cons, merged_cons, ih]

/-- Each option has the value of the last layer that sets it, and is unset if none does. So an
overlay is associative with the empty options as its identity, in each domain and in all together,
layers may be merged in two parts, and layers that set nothing count for nothing, wherever they
are. -/
theorem merged_lastSet :
    (∀ {α : Type} (key : OptionKey α) (layers : List Layer),
      (∀ value, key.get? (merged layers) = some value ↔ key.IsLastSet layers value) ∧
        (key.get? (merged layers) = none ↔ ∀ layer ∈ layers, key.get? layer.options = none)) ∧
    ((Std.Associative BuilderOptions.overlay ∧ Std.LawfulIdentity BuilderOptions.overlay {}) ∧
      (Std.Associative MockingOptions.overlay ∧ Std.LawfulIdentity MockingOptions.overlay {}) ∧
      (Std.Associative FixtureOptions.overlay ∧ Std.LawfulIdentity FixtureOptions.overlay {}) ∧
      Std.Associative Options.overlay ∧ Std.LawfulIdentity Options.overlay {}) ∧
    (∀ before after, merged (before ++ after) = (merged before).overlay (merged after)) ∧
    (∀ layer : Layer, layer.options.isEmpty = true ↔
      ∀ {α : Type} (key : OptionKey α), key.get? layer.options = none) ∧
    ∀ layers, merged (layers.filter fun layer => !layer.options.isEmpty) = merged layers := by
  refine ⟨fun key layers => ⟨fun _ => get?_merged_eq_some_iff, get?_merged_eq_none_iff⟩,
    ⟨⟨inferInstance, inferInstance⟩, ⟨inferInstance, inferInstance⟩,
      ⟨inferInstance, inferInstance⟩, inferInstance, inferInstance⟩,
    merged_append, fun layer => ?_, merged_filter⟩
  rw [isEmpty_iff]
  constructor
  · intro empty _ key
    rw [empty, key.get?_empty]
  · exact fun unset => ext_get? fun key => (unset key).trans key.get?_empty.symm

/-- An inner layer decides what it sets, be it to the default, and nothing else. -/
example :
    merged [⟨.assembly, { builder := { methodPrefix := some "Having", implicitCast := some true } }⟩,
      ⟨.type, {}⟩, ⟨.invocation, { builder := { methodPrefix := some "With" } }⟩] =
    { builder := { methodPrefix := some "With", implicitCast := some true } } := by
  decide

end Options

end FluentGen
