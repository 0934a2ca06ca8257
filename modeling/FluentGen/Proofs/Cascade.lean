import FluentGen.Configuration
import FluentGen.Proofs.AttributeNames
import FluentGen.Proofs.CommaLists
import FluentGen.Proofs.FallibleSteps
import FluentGen.Proofs.LayerMerging
import Mathlib.Tactic.MkIffOfInductiveProp
/-!
# The cascade of options

An option has the value of the innermost scope that sets it, and of several attributes of one scope
the last one that sets it counts. The configuration of a builder is read off three scopes in this
way, option by option, if all options are well typed and the outcome is valid.

## Main definitions
* `Attribute.given?`: the argument that an attribute is written with at a position.
* `Attribute.WellTyped`: whether the arguments of an attribute have the types of its options.
* `lastSetting`, `cascaded`: the value of an option at one scope, and over all scopes.
* `Configuration.Cascades`: whether a configuration is what the scopes say, option by option.
* `Configuration.Valid`: whether builders can be made with it.

## Main statements
* `Options.read_foldl_overlay`: of any number of attributes the last one that sets an option counts.
* `Configuration.cascades_iff_eq`: filling in defaults gives the only configuration that the scopes say.
* `Configuration.forUnit_eq_ok_iff`: when there is a configuration, and which one it is.
-/
namespace FluentGen

/-! ## Names -/

namespace Text

/-- Whether a text is a name, maybe after a qualifier. -/
def EndsIn (text name : String) : Prop :=
  text = name ∨ ("." ++ name).toList <:+ text.toList

instance (text name : String) : Decidable (EndsIn text name) :=
  inferInstanceAs (Decidable (_ ∨ _))

theorem endsIn_iff {text name : String} (dotless : '.' ∉ name.toList) :
    EndsIn text name ↔ lastSegment text = name := by
  rw [lastSegment_eq_iff dotless]
  refine or_congr_right ⟨fun ⟨before, split⟩ => ⟨String.ofList before, ?_⟩, ?_⟩
  · apply String.toList_injective
    simpa using split.symm
  · rintro ⟨before, rfl⟩
    exact ⟨before.toList, by simp⟩

end Text

/-- Whether an attribute is written with a name, maybe after a namespace and with the ending. -/
def Attribute.IsWritten (a : Attribute) (name : String) : Prop :=
  Text.EndsIn a.name name ∨ Text.EndsIn a.name (name ++ "Attribute")

instance (a : Attribute) (name : String) : Decidable (a.IsWritten name) :=
  inferInstanceAs (Decidable (_ ∨ _))

/-- The names of the attributes that set options. -/
def optionAttributes : List String :=
  ["BuilderConfiguration", "MockingConfiguration", "MoqConfiguration", "FixtureConfiguration",
    "AutoFixtureConfiguration"]

/-- The attributes that set options are told by how they are written. -/
theorem Attribute.isWritten_iff {a : Attribute} {name : String} (h : name ∈ optionAttributes) :
    a.IsWritten name ↔ a.isNamed name = true := by
  have plain : ∀ name ∈ optionAttributes, ¬ ending.toList <:+ name.toList ∧ '.' ∉ name.toList ∧
      '.' ∉ (name ++ "Attribute").toList := by decide
  obtain ⟨unended, dotless, dotless'⟩ := plain name h
  rw [isNamed_eq unended, decide_eq_true_iff, IsWritten, Text.endsIn_iff dotless,
    Text.endsIn_iff dotless']
  rfl

/-! ## Arguments as options -/

namespace AttributeValue

/-- The text that an argument is. -/
def text? : AttributeValue → Option String
  | .text value => some value
  | _ => none

/-- The Boolean that an argument is. -/
def flag? : AttributeValue → Option Bool
  | .flag value => some value
  | _ => none

/-- The choice that an argument stands for: its number, or its name after any qualifier. -/
def chosen? {α : Type} (choices : List (Int × String × α)) : AttributeValue → Option α
  | .number value => (choices.find? fun entry => entry.1 = value.toInt).map (·.2.2)
  | .text value => (choices.find? fun entry => Text.EndsIn value entry.2.1).map (·.2.2)
  | _ => none

/-- The nullable strategy that an argument stands for. -/
def nullable? : AttributeValue → Option NullableStrategy :=
  chosen? [(0, "Default", .default), (1, "Disabled", .disabled), (2, "Enabled", .enabled)]

/-- The strategy for interfaces that an argument stands for. -/
def interfaces? : AttributeValue → Option InterfaceStrategy :=
  chosen? [(0, "None", .none), (1, "All", .all),
    (2, "WithoutGenericCollection", .withoutGenericCollection)]

/-- Choices are numbered in the order in which they are listed. -/
theorem chosen?_eq {α : Type} {first second third : String × α}
    (dotless : ∀ choice ∈ [first, second, third], '.' ∉ choice.1.toList) :
    chosen? [(0, first), (1, second), (2, third)] = Attribute.choice? [first, second, third] := by
  obtain ⟨firstDotless, secondDotless, thirdDotless⟩ : '.' ∉ first.1.toList ∧
      '.' ∉ second.1.toList ∧ '.' ∉ third.1.toList := by simpa using dotless
  funext value
  cases value with
  | number value =>
    simp only [chosen?, Attribute.choice?]
    generalize value.toInt = n
    obtain rfl | rfl | rfl | outside : n = 0 ∨ n = 1 ∨ n = 2 ∨ (n < 0 ∨ 3 ≤ n) := by omega
    · rfl
    · rfl
    · rfl
    · have none : (if 0 ≤ n then ([first, second, third][n.toNat]?).map (·.2) else none) = none := by
        refine ite_eq_right_iff.mpr fun natural => Option.map_eq_none_iff.mpr ?_
        exact List.getElem?_eq_none (by simp only [List.length_cons, List.length_nil]; omega)
      rw [none, Option.map_eq_none_iff, List.find?_eq_none]
      simp only [List.mem_cons, List.not_mem_nil, or_false, decide_eq_true_eq, forall_eq_or_imp,
        forall_eq]
      omega
  | text value =>
    simp only [chosen?, Attribute.choice?, List.find?_cons, List.find?_nil,
      Text.endsIn_iff firstDotless, Text.endsIn_iff secondDotless, Text.endsIn_iff thirdDotless]
    grind
  | flag value => simp [chosen?, Attribute.choice?]
  | type value => simp [chosen?, Attribute.choice?]

theorem nullable?_eq : nullable? = Attribute.choice? NullableStrategy.choices :=
  chosen?_eq (by decide)

theorem interfaces?_eq : interfaces? = Attribute.choice? InterfaceStrategy.choices :=
  chosen?_eq (by decide)

end AttributeValue

open AttributeValue (text? flag? nullable? interfaces?)

namespace Attribute

/-- The argument that an attribute is written with at a position, if it was not left out. -/
def given? (a : Attribute) (position : Nat) : Option AttributeValue :=
  match a.arguments.drop position with
  | argument :: _ => argument
  | [] => none

theorem given?_eq (a : Attribute) (position : Nat) : a.given? position = a.argument? position := by
  rw [given?, argument?, ← List.head?_drop]
  cases a.arguments.drop position <;> rfl

/-- The value that an attribute gives the option at a position. -/
def setting {α : Type} (read : AttributeValue → Option α) (position : Nat) (a : Attribute) :
    Option α :=
  (a.given? position).bind read

/-- Whether the argument at a position can be read, if it was given. -/
def Accepts {α : Type} (read : AttributeValue → Option α) (position : Nat) (a : Attribute) : Prop :=
  ∀ value ∈ a.given? position, (read value).isSome

/-- Whether the arguments from `start` on can be read as options of a builder. -/
@[mk_iff]
structure AcceptsBuilder (start : Nat) (a : Attribute) : Prop where
  methodPrefix : a.Accepts text? start
  defaultCreator : a.Accepts flag? (start + 1)
  nullableStrategy : a.Accepts nullable? (start + 2)
  unreachableSetters : a.Accepts flag? (start + 3)
  implicitCast : a.Accepts flag? (start + 4)
  factoryMethod : a.Accepts text? (start + 5)
  creatorProperty : a.Accepts flag? (start + 6)
  emptyCollections : a.Accepts flag? (start + 7)

/-- Whether the first arguments can be read as options of mocking. -/
@[mk_iff]
structure AcceptsMocking (a : Attribute) : Prop where
  strategy : a.Accepts interfaces? 0
  typeFormat : a.Accepts text? 1
  valueFormat : a.Accepts text? 2
  objectFormat : a.Accepts text? 3
  namespaces : a.Accepts text? 4

/-- Whether the first arguments can be read as options of fixtures. -/
@[mk_iff]
structure AcceptsFixture (a : Attribute) : Prop where
  strategy : a.Accepts interfaces? 0
  typeName : a.Accepts text? 1
  createFormat : a.Accepts text? 2
  constructorArguments : a.Accepts text? 3
  setup : a.Accepts text? 4
  namespaces : a.Accepts text? 5

/-- Whether the arguments of an attribute have the types of its options, if it sets any. -/
@[mk_iff]
structure WellTyped (a : Attribute) : Prop where
  builder : a.IsWritten "BuilderConfiguration" → a.AcceptsBuilder 0
  mocking : a.IsWritten "MockingConfiguration" ∨ a.IsWritten "MoqConfiguration" → a.AcceptsMocking
  fixture : a.IsWritten "FixtureConfiguration" ∨ a.IsWritten "AutoFixtureConfiguration" →
    a.AcceptsFixture

/-- What an attribute gives the builder option at a position, if it sets builder options. -/
def builderSetting {α : Type} (read : AttributeValue → Option α) (position : Nat) (a : Attribute) :
    Option α :=
  if a.IsWritten "BuilderConfiguration" then a.setting read position else none

/-- What an attribute gives the option of a domain at a position, if it sets options of that domain.
The attribute for a library gives its own value where the argument is left out. -/
def domainSetting {α : Type} (domain library : String) (read : AttributeValue → Option α)
    (position : Nat) (preset : Option α) (a : Attribute) : Option α :=
  if a.IsWritten domain then a.setting read position
  else if a.IsWritten library then (a.setting read position).or preset
  else none

end Attribute

/-- What the last attribute that sets an option gives it. -/
def lastSetting {α : Type} (attributes : List Attribute) (setting : Attribute → Option α) :
    Option α :=
  attributes.reverse.findSome? setting

/-- What the attributes of the builder class give an option, or else those of the assembly. -/
def cascaded {α : Type} (model : Compilation) (builder : NamedType)
    (setting : Attribute → Option α) : Option α :=
  (lastSetting builder.attributes setting).or (lastSetting model.assemblyAttributes setting)

/-- What the application gives a builder option, or else the scopes around it; the first argument of
the application is the built type. -/
def cascadedBuilder {α : Type} (model : Compilation) (builder : NamedType) (invocation : Attribute)
    (read : AttributeValue → Option α) (position : Nat) : Option α :=
  (invocation.setting read (position + 1)).or
    (cascaded model builder (Attribute.builderSetting read position))

/-- What the scopes give a mocking option. -/
def cascadedMocking {α : Type} (model : Compilation) (builder : NamedType)
    (read : AttributeValue → Option α) (position : Nat) (preset : Option α) : Option α :=
  cascaded model builder
    (Attribute.domainSetting "MockingConfiguration" "MoqConfiguration" read position preset)

/-- What the scopes give a fixture option. -/
def cascadedFixture {α : Type} (model : Compilation) (builder : NamedType)
    (read : AttributeValue → Option α) (position : Nat) (preset : Option α) : Option α :=
  cascaded model builder
    (Attribute.domainSetting "FixtureConfiguration" "AutoFixtureConfiguration" read position preset)

/-- Whether a text is kept just where it was given and shows anything. -/
def KeptIfShown (given kept : Option String) : Prop :=
  ∀ text, kept = some text ↔ given = some text ∧ Text.Shows text

/-- Whether texts are the items of the list that was given; without a list there are none. -/
def ListsGiven (given : Option String) (items : List String) : Prop :=
  match given with
  | some text => Text.Lists text items
  | none => items = []

namespace Configuration

/-- Whether a configuration is what the scopes around an application say, option by option. -/
@[mk_iff]
structure Cascades (model : Compilation) (builder : NamedType) (invocation : Attribute)
    (config : Configuration) : Prop where
  methodPrefix : config.builder.methodPrefix =
    (cascadedBuilder model builder invocation text? 0).getD "With"
  defaultCreator : config.builder.defaultCreator =
    (cascadedBuilder model builder invocation flag? 1).getD true
  /-- Where annotations are on everywhere, the default turns them on. -/
  nullableStrategy : config.builder.nullableStrategy =
    match cascadedBuilder model builder invocation nullable? 2 with
    | some .disabled => .disabled
    | some .enabled => .enabled
    | some .default | none => if model.nullableEnabled then .enabled else .default
  unreachableSetters : config.builder.unreachableSetters =
    (cascadedBuilder model builder invocation flag? 3).getD false
  implicitCast : config.builder.implicitCast =
    (cascadedBuilder model builder invocation flag? 4).getD false
  /-- A blank name hides the scopes around it. -/
  factoryMethod : KeptIfShown (cascadedBuilder model builder invocation text? 5)
    config.builder.factoryMethod
  creatorProperty : config.builder.creatorProperty =
    (cascadedBuilder model builder invocation flag? 6).getD false
  emptyCollections : config.builder.emptyCollections =
    (cascadedBuilder model builder invocation flag? 7).getD false
  mockingStrategy : config.mocking.strategy =
    (cascadedMocking model builder interfaces? 0 (some .withoutGenericCollection)).getD .none
  mockTypeFormat : config.mocking.typeFormat =
    (cascadedMocking model builder text? 1 (some "Mock<{0}>")).getD "Mock<{0}>"
  mockValueFormat : config.mocking.valueFormat =
    (cascadedMocking model builder text? 2 (some "new Mock<{0}>()")).getD "new Mock<{0}>()"
  mockObjectFormat : config.mocking.objectFormat =
    (cascadedMocking model builder text? 3 (some "{0}.Object")).getD "{0}.Object"
  mockingNamespaces : ListsGiven (cascadedMocking model builder text? 4 (some "Moq"))
    config.mocking.namespaces
  fixtureStrategy : config.fixture.strategy =
    (cascadedFixture model builder interfaces? 0 (some .withoutGenericCollection)).getD .none
  fixtureTypeName : config.fixture.typeName =
    (cascadedFixture model builder text? 1 (some "AutoFixture.Fixture")).getD "Fixture"
  fixtureCreateFormat : config.fixture.createFormat =
    (cascadedFixture model builder text? 2 (some "{0}.Create<{1}>()")).getD "{0}.Create<{1}>()"
  fixtureArguments : KeptIfShown (cascadedFixture model builder text? 3 none)
    config.fixture.constructorArguments
  fixtureSetup : KeptIfShown (cascadedFixture model builder text? 4 none) config.fixture.setup
  fixtureNamespaces : ListsGiven (cascadedFixture model builder text? 5 (some "AutoFixture"))
    config.fixture.namespaces

/-- Whether builders can be made with the configuration: the prefix starts identifiers, and the
formats that are used show anything. -/
@[mk_iff]
structure Valid (config : Configuration) : Prop where
  prefix_shows : Text.Shows config.builder.methodPrefix
  prefix_identifier : ∀ c ∈ config.builder.methodPrefix.toList,
    Text.isAlphanumeric c = true ∨ c = '_'
  mocking : config.mocking.strategy ≠ .none →
    Text.Shows config.mocking.typeFormat ∧ Text.Shows config.mocking.valueFormat ∧
      Text.Shows config.mocking.objectFormat
  fixture : config.fixture.strategy ≠ .none →
    Text.Shows config.fixture.typeName ∧ Text.Shows config.fixture.createFormat

end Configuration

/-! ## One attribute -/

namespace Attribute

variable {a : Attribute} {position : Nat} {option : String}

theorem textOption?_eq_ok_iff {found : Option String} :
    a.textOption? option position = .ok found ↔
      a.Accepts text? position ∧ found = a.setting text? position := by
  simp only [textOption?, Accepts, setting, given?_eq]
  cases a.argument? position with
  | none => simp [@eq_comm _ found]
  | some value => cases value <;> simp [text?, refuse, @eq_comm _ found]

theorem flagOption?_eq_ok_iff {found : Option Bool} :
    a.flagOption? option position = .ok found ↔
      a.Accepts flag? position ∧ found = a.setting flag? position := by
  simp only [flagOption?, Accepts, setting, given?_eq]
  cases a.argument? position with
  | none => simp [@eq_comm _ found]
  | some value => cases value <;> simp [flag?, refuse, @eq_comm _ found]

theorem choiceOption?_eq_ok_iff {α : Type} {choices : List (String × α)} {found : Option α} :
    choiceOption? choices a option position = .ok found ↔
      a.Accepts (choice? choices) position ∧ found = a.setting (choice? choices) position := by
  simp only [choiceOption?, Accepts, setting, given?_eq]
  cases a.argument? position with
  | none => simp [@eq_comm _ found]
  | some value => cases chosen : choice? choices value <;> simp [chosen, refuse, @eq_comm _ found]

theorem domainSetting_eq {α β : Type} {domain library : String} {read : AttributeValue → Option α}
    {own overlaid unset : β} {preset : Option α} (option : β → Option α)
    (ofOwn : option own = a.setting read position)
    (ofOverlaid : option overlaid = (a.setting read position).or preset)
    (ofUnset : option unset = none) :
    option (if a.IsWritten domain then own else if a.IsWritten library then overlaid else unset) =
      a.domainSetting domain library read position preset := by
  unfold domainSetting
  split
  · exact ofOwn
  · split
    · exact ofOverlaid
    · exact ofUnset

/-- The builder options of an attribute, without those that cannot be read. -/
def builderOptions (start : Nat) (a : Attribute) : BuilderOptions where
  methodPrefix := a.setting text? start
  defaultCreator := a.setting flag? (start + 1)
  nullableStrategy := a.setting nullable? (start + 2)
  unreachableSetters := a.setting flag? (start + 3)
  implicitCast := a.setting flag? (start + 4)
  factoryMethod := a.setting text? (start + 5)
  creatorProperty := a.setting flag? (start + 6)
  emptyCollections := a.setting flag? (start + 7)

/-- The mocking options of an attribute, without those that cannot be read. -/
def mockingOptions (a : Attribute) : MockingOptions where
  strategy := a.setting interfaces? 0
  typeFormat := a.setting text? 1
  valueFormat := a.setting text? 2
  objectFormat := a.setting text? 3
  namespaces := a.setting text? 4

/-- The fixture options of an attribute, without those that cannot be read. -/
def fixtureOptions (a : Attribute) : FixtureOptions where
  strategy := a.setting interfaces? 0
  typeName := a.setting text? 1
  createFormat := a.setting text? 2
  constructorArguments := a.setting text? 3
  setup := a.setting text? 4
  namespaces := a.setting text? 5

/-- The options that an attribute sets in any domain, without those that cannot be read. -/
def options (a : Attribute) : Options where
  builder := if a.IsWritten "BuilderConfiguration" then a.builderOptions 0 else {}
  mocking :=
    if a.IsWritten "MockingConfiguration" then a.mockingOptions
    else if a.IsWritten "MoqConfiguration" then MockingOptions.moq.overlay a.mockingOptions
    else {}
  fixture :=
    if a.IsWritten "FixtureConfiguration" then a.fixtureOptions
    else if a.IsWritten "AutoFixtureConfiguration" then
      FixtureOptions.autoFixture.overlay a.fixtureOptions
    else {}

end Attribute

theorem BuilderOptions.ofAttribute_eq_ok_iff {a : Attribute} {start : Nat}
    {options : BuilderOptions} :
    BuilderOptions.ofAttribute a start = .ok options ↔
      a.AcceptsBuilder start ∧ options = a.builderOptions start := by
  simp only [ofAttribute, bind_eq_ok_iff, Attribute.textOption?_eq_ok_iff,
    Attribute.flagOption?_eq_ok_iff, Attribute.choiceOption?_eq_ok_iff,
    ← AttributeValue.nullable?_eq, pure, Except.pure, Except.ok.injEq, Attribute.acceptsBuilder_iff,
    and_assoc, exists_and_left, exists_eq_left, @eq_comm _ options]
  rfl

theorem MockingOptions.ofAttribute_eq_ok_iff {a : Attribute} {options : MockingOptions} :
    MockingOptions.ofAttribute a = .ok options ↔
      a.AcceptsMocking ∧ options = a.mockingOptions := by
  simp only [ofAttribute, bind_eq_ok_iff, Attribute.textOption?_eq_ok_iff,
    Attribute.choiceOption?_eq_ok_iff, ← AttributeValue.interfaces?_eq, pure, Except.pure,
    Except.ok.injEq, Attribute.acceptsMocking_iff, and_assoc, exists_and_left, exists_eq_left,
    @eq_comm _ options]
  rfl

theorem FixtureOptions.ofAttribute_eq_ok_iff {a : Attribute} {options : FixtureOptions} :
    FixtureOptions.ofAttribute a = .ok options ↔
      a.AcceptsFixture ∧ options = a.fixtureOptions := by
  simp only [ofAttribute, bind_eq_ok_iff, Attribute.textOption?_eq_ok_iff,
    Attribute.choiceOption?_eq_ok_iff, ← AttributeValue.interfaces?_eq, pure, Except.pure,
    Except.ok.injEq, Attribute.acceptsFixture_iff, and_assoc, exists_and_left, exists_eq_left,
    @eq_comm _ options]
  rfl

namespace Options

theorem ofAttribute_eq_ok_iff {a : Attribute} {options : Options} :
    Options.ofAttribute a = .ok options ↔ a.WellTyped ∧ options = a.options := by
  -- An attribute has one name, so each case settles what all domains are set to.
  have names : ∀ name ∈ optionAttributes, (a.IsWritten name) = (a.shortName = name) :=
    fun name h => propext ((Attribute.isWritten_iff h).trans beq_iff_eq)
  simp only [optionAttributes, List.forall_mem_cons] at names
  simp only [Options.ofAttribute, Attribute.wellTyped_iff, Attribute.options, Attribute.isNamed,
    beq_iff_eq, names]
  by_cases builder : a.shortName = "BuilderConfiguration"
  · simp [builder, map_eq_ok_iff, BuilderOptions.ofAttribute_eq_ok_iff, and_assoc,
      @eq_comm _ options]
  by_cases mocking : a.shortName = "MockingConfiguration"
  · simp [mocking, map_eq_ok_iff, MockingOptions.ofAttribute_eq_ok_iff, and_assoc,
      @eq_comm _ options]
  by_cases moq : a.shortName = "MoqConfiguration"
  · simp [moq, map_eq_ok_iff, MockingOptions.ofAttribute_eq_ok_iff, and_assoc, @eq_comm _ options]
  by_cases fixture : a.shortName = "FixtureConfiguration"
  · simp [fixture, map_eq_ok_iff, FixtureOptions.ofAttribute_eq_ok_iff, and_assoc,
      @eq_comm _ options]
  by_cases autoFixture : a.shortName = "AutoFixtureConfiguration"
  · simp [autoFixture, map_eq_ok_iff, FixtureOptions.ofAttribute_eq_ok_iff, and_assoc,
      @eq_comm _ options]
  simp [builder, mocking, moq, fixture, autoFixture, @eq_comm _ options]

/-- What the options read so far and those of further attributes come to: the last attribute that
sets an option counts. -/
theorem read_foldl_overlay {α : Type} {read : Options → Option α}
    (respects : ∀ outer inner, read (outer.overlay inner) = (read inner).or (read outer))
    (outer : Options) (attributes : List Attribute) :
    read ((attributes.map Attribute.options).foldl overlay outer) =
      (lastSetting attributes fun a => read a.options).or (read outer) := by
  rw [read_foldl respects, ← List.map_reverse, List.findSome?_map]
  rfl

theorem ofAttributes_eq_ok_iff {attributes : List Attribute} {outer options : Options} :
    Options.ofAttributes outer attributes = .ok options ↔
      (∀ a ∈ attributes, a.WellTyped) ∧
        options = (attributes.map Attribute.options).foldl overlay outer := by
  induction attributes generalizing outer with
  | nil => simp [Options.ofAttributes, @eq_comm _ options]
  | cons first others ih =>
    simp [Options.ofAttributes, bind_eq_ok_iff, ofAttribute_eq_ok_iff, ih, and_assoc]

/-- The options of a unit of work: those of the assembly, of the builder class and of the
application. -/
def ofUnit (model : Compilation) (builder : NamedType) (invocation : Attribute) : Options :=
  merged
    [⟨.assembly, (model.assemblyAttributes.map Attribute.options).foldl overlay {}⟩,
      ⟨.type, (builder.attributes.map Attribute.options).foldl overlay {}⟩,
      ⟨.invocation, { builder := invocation.builderOptions 1 }⟩]

variable {α : Type} {model : Compilation} {builder : NamedType} {invocation : Attribute}

theorem read_ofUnit (read : Options → Option α) (unset : read {} = none)
    (respects : ∀ outer inner, read (outer.overlay inner) = (read inner).or (read outer)) :
    read (ofUnit model builder invocation) =
      (read { builder := invocation.builderOptions 1 }).or
        (cascaded model builder fun a => read a.options) := by
  simp only [ofUnit, merged, List.foldl_cons, List.foldl_nil, respects, read_foldl_overlay respects,
    unset, Option.or_none, cascaded]

theorem builder_ofUnit (option : BuilderOptions → Option α) (read : AttributeValue → Option α)
    (position : Nat) (unset : option {} = none)
    (respects : ∀ outer inner : BuilderOptions,
      option (outer.overlay inner) = (option inner).or (option outer))
    (reads : ∀ start a, option (Attribute.builderOptions start a) =
      a.setting read (start + position)) :
    option (ofUnit model builder invocation).builder =
      cascadedBuilder model builder invocation read position := by
  have setting : (fun a : Attribute => option a.options.builder) =
      Attribute.builderSetting read position := by
    funext a
    simp only [Attribute.options, Attribute.builderSetting]
    split
    · rw [reads, Nat.zero_add]
    · exact unset
  rw [read_ofUnit (fun options => option options.builder) unset fun _ _ => respects _ _, setting,
    reads, Nat.add_comm]
  rfl

theorem mocking_ofUnit (option : MockingOptions → Option α) (read : AttributeValue → Option α)
    (position : Nat) (unset : option {} = none)
    (respects : ∀ outer inner : MockingOptions,
      option (outer.overlay inner) = (option inner).or (option outer))
    (reads : ∀ a : Attribute, option a.mockingOptions = a.setting read position) :
    option (ofUnit model builder invocation).mocking =
      cascadedMocking model builder read position (option .moq) := by
  have setting : (fun a : Attribute => option a.options.mocking) =
      Attribute.domainSetting "MockingConfiguration" "MoqConfiguration" read position
        (option .moq) := by
    funext a
    simp only [Attribute.options]
    exact Attribute.domainSetting_eq option (reads a) ((respects _ _).trans (by rw [reads])) unset
  rw [read_ofUnit (fun options => option options.mocking) unset fun _ _ => respects _ _, setting,
    unset, Option.none_or]
  rfl

theorem fixture_ofUnit (option : FixtureOptions → Option α) (read : AttributeValue → Option α)
    (position : Nat) (unset : option {} = none)
    (respects : ∀ outer inner : FixtureOptions,
      option (outer.overlay inner) = (option inner).or (option outer))
    (reads : ∀ a : Attribute, option a.fixtureOptions = a.setting read position) :
    option (ofUnit model builder invocation).fixture =
      cascadedFixture model builder read position (option .autoFixture) := by
  have setting : (fun a : Attribute => option a.options.fixture) =
      Attribute.domainSetting "FixtureConfiguration" "AutoFixtureConfiguration" read position
        (option .autoFixture) := by
    funext a
    simp only [Attribute.options]
    exact Attribute.domainSetting_eq option (reads a) ((respects _ _).trans (by rw [reads])) unset
  rw [read_ofUnit (fun options => option options.fixture) unset fun _ _ => respects _ _, setting,
    unset, Option.none_or]
  rfl

end Options

/-! ## The configuration -/

namespace Configuration

variable {model : Compilation} {builder : NamedType} {invocation : Attribute}

open Options (builder_ofUnit mocking_ofUnit fixture_ofUnit)

theorem keptIfShown_iff {given kept : Option String} :
    KeptIfShown given kept ↔ kept = nonBlank given := by
  simp only [KeptIfShown, nonBlank, ← Text.isBlankText_eq_false_iff]
  constructor
  · intro h
    ext text
    simp [h]
  · rintro rfl text
    simp

theorem listsGiven_iff {given : Option String} {items : List String} :
    ListsGiven given items ↔ items = splitNamespaces given := by
  cases given with
  | none => rfl
  | some text => exact Text.lists_iff

/-- Filling in defaults gives the only configuration that the scopes say. -/
theorem cascades_iff_eq {config : Configuration} : config.Cascades model builder invocation ↔
    config = ofOptions (.ofUnit model builder invocation) model.nullableEnabled := by
  obtain ⟨⟨⟩, ⟨⟩, ⟨⟩⟩ := config
  simp only [Configuration.cascades_iff, keptIfShown_iff, listsGiven_iff, ofOptions, mk.injEq,
    BuilderSettings.mk.injEq, MockingSettings.mk.injEq, FixtureSettings.mk.injEq, and_assoc,
    builder_ofUnit (·.methodPrefix) text? 0 rfl (fun _ _ => rfl) fun _ _ => rfl,
    builder_ofUnit (·.defaultCreator) flag? 1 rfl (fun _ _ => rfl) fun _ _ => rfl,
    builder_ofUnit (·.nullableStrategy) nullable? 2 rfl (fun _ _ => rfl) fun _ _ => rfl,
    builder_ofUnit (·.unreachableSetters) flag? 3 rfl (fun _ _ => rfl) fun _ _ => rfl,
    builder_ofUnit (·.implicitCast) flag? 4 rfl (fun _ _ => rfl) fun _ _ => rfl,
    builder_ofUnit (·.factoryMethod) text? 5 rfl (fun _ _ => rfl) fun _ _ => rfl,
    builder_ofUnit (·.creatorProperty) flag? 6 rfl (fun _ _ => rfl) fun _ _ => rfl,
    builder_ofUnit (·.emptyCollections) flag? 7 rfl (fun _ _ => rfl) fun _ _ => rfl,
    mocking_ofUnit (·.strategy) interfaces? 0 rfl (fun _ _ => rfl) fun _ => rfl,
    mocking_ofUnit (·.typeFormat) text? 1 rfl (fun _ _ => rfl) fun _ => rfl,
    mocking_ofUnit (·.valueFormat) text? 2 rfl (fun _ _ => rfl) fun _ => rfl,
    mocking_ofUnit (·.objectFormat) text? 3 rfl (fun _ _ => rfl) fun _ => rfl,
    mocking_ofUnit (·.namespaces) text? 4 rfl (fun _ _ => rfl) fun _ => rfl,
    fixture_ofUnit (·.strategy) interfaces? 0 rfl (fun _ _ => rfl) fun _ => rfl,
    fixture_ofUnit (·.typeName) text? 1 rfl (fun _ _ => rfl) fun _ => rfl,
    fixture_ofUnit (·.createFormat) text? 2 rfl (fun _ _ => rfl) fun _ => rfl,
    fixture_ofUnit (·.constructorArguments) text? 3 rfl (fun _ _ => rfl) fun _ => rfl,
    fixture_ofUnit (·.setup) text? 4 rfl (fun _ _ => rfl) fun _ => rfl,
    fixture_ofUnit (·.namespaces) text? 5 rfl (fun _ _ => rfl) fun _ => rfl]
  have strategy : decideNullable model.nullableEnabled
      ((cascadedBuilder model builder invocation nullable? 2).getD .default) =
      match cascadedBuilder model builder invocation nullable? 2 with
      | some .disabled => .disabled
      | some .enabled => .enabled
      | some .default | none => if model.nullableEnabled then .enabled else .default := by
    cases cascadedBuilder model builder invocation nullable? 2 with
    | none => rfl
    | some strategy => cases strategy <;> rfl
  rw [strategy]
  rfl

theorem checkPrefix_eq_ok_iff {text : String} :
    checkPrefix text = .ok () ↔ Text.Shows text ∧
      ∀ c ∈ text.toList, Text.isAlphanumeric c = true ∨ c = '_' := by
  rw [← Text.isBlankText_eq_false_iff]
  cases blank : Text.isBlankText text <;> simp [checkPrefix, blank, Decidable.or_iff_not_imp_left]

theorem requireText_eq_ok_iff {key value : String} :
    requireText key value = .ok () ↔ Text.Shows value := by
  rw [← Text.isBlankText_eq_false_iff]
  cases blank : Text.isBlankText value <;> simp [requireText, blank]

theorem check_eq_ok_iff {config : Configuration} : config.check = .ok () ↔ config.Valid := by
  rw [check, then_eq_ok_iff, checkPrefix_eq_ok_iff, valid_iff, and_assoc]
  by_cases mocks : config.mocking.strategy = .none <;>
    by_cases makesUp : config.fixture.strategy = .none <;>
      simp [mocks, makesUp, then_eq_ok_iff, requireText_eq_ok_iff, pure, Except.pure, and_assoc]

theorem ofLayers_eq_ok_iff {layers : List Layer} {nullableEnabled : Bool} {config : Configuration} :
    ofLayers layers nullableEnabled = .ok config ↔
      (ofOptions (.merged layers) nullableEnabled).Valid ∧
        config = ofOptions (.merged layers) nullableEnabled := by
  simp [ofLayers, then_eq_ok_iff, check_eq_ok_iff, pure, Except.pure, @eq_comm _ config]

variable (model builder invocation) in
/-- The scopes say one configuration. There is a configuration exactly when all options are well typed
and what the scopes say is valid, and then it is that one. -/
theorem forUnit_eq_ok_iff :
    (∃! config : Configuration, config.Cascades model builder invocation) ∧
    ∀ config, forUnit model builder invocation = .ok config ↔
      ((∀ a ∈ model.assemblyAttributes ++ builder.attributes, a.WellTyped) ∧
        invocation.AcceptsBuilder 1 ∧ config.Valid) ∧
      config.Cascades model builder invocation := by
  refine ⟨⟨_, cascades_iff_eq.mpr rfl, fun _ => cascades_iff_eq.mp⟩, fun config => ?_⟩
  have decided : forUnit model builder invocation = .ok config ↔
      ((∀ a ∈ model.assemblyAttributes ++ builder.attributes, a.WellTyped) ∧
        invocation.AcceptsBuilder 1 ∧
        (ofOptions (.ofUnit model builder invocation) model.nullableEnabled).Valid) ∧
      config = ofOptions (.ofUnit model builder invocation) model.nullableEnabled := by
    simp only [forUnit, Layer.ofAttributes, Layer.ofInvocation, bind_eq_ok_iff, map_eq_ok_iff,
      Options.ofAttributes_eq_ok_iff, BuilderOptions.ofAttribute_eq_ok_iff, ofLayers_eq_ok_iff,
      and_assoc, exists_and_left, exists_eq_left, exists_eq_left', List.forall_mem_append]
    rfl
  rw [decided, cascades_iff_eq]
  refine and_congr_left ?_
  rintro rfl
  rfl

/-- A builder class with two attributes of the same kind, the later one with a blank name for the
factory method, and with an attribute for a library that gives some of its options. -/
def scopedBuilder : NamedType where
  name := "OrderBuilder"
  attributes :=
    [⟨"BuilderConfiguration", [some (.text "By"), none, none, none, none, some (.text "Make")], none⟩,
      ⟨"Buildsmith.BuilderConfigurationAttribute",
        [none, some (.flag false), some (.text "NullableStrategy.Disabled"), none, none,
          some (.text " ")], none⟩,
      ⟨"MoqConfiguration",
        [some (.number 1), none, none, some (.text "{0}.Obj"), some (.text " Moq , ,Shop.Mocks")],
        none⟩]

/-- The application decides before the builder class and this before the assembly, what an attribute
leaves out is decided by one before it, a blank name hides the names before it, and what the attribute
for a library leaves out is as the library needs it. -/
theorem forUnit_eq_ok_iff_scoped :
    let model : Compilation :=
      { assemblyAttributes := [⟨"BuilderConfiguration",
          [some (.text "Having"), none, none, some (.flag true), none, some (.text "Create")], none⟩] }
    let invocation : Attribute :=
      ⟨"MakeBuilder", [some (.type (.named "Shop" "Order" .classType)), none, none, none, none,
        some (.flag true)], none⟩
    ∃ config, forUnit model scopedBuilder invocation = .ok config ∧
      config.Cascades model scopedBuilder invocation ∧
      config.builder = ⟨"By", false, .disabled, true, true, none, false, false⟩ ∧
      config.mocking = ⟨.all, "Mock<{0}>", "new Mock<{0}>()", "{0}.Obj", ["Moq", "Shop.Mocks"]⟩ := by
  intro model invocation
  have decided : forUnit model scopedBuilder invocation = .ok
      { Configuration.default with
        builder := ⟨"By", false, .disabled, true, true, none, false, false⟩
        mocking := ⟨.all, "Mock<{0}>", "new Mock<{0}>()", "{0}.Obj", ["Moq", "Shop.Mocks"]⟩ } := by
    decide +kernel
  have cascades := ((forUnit_eq_ok_iff model scopedBuilder invocation).2 _).mp decided
  exact ⟨_, decided, cascades.2, rfl, rfl⟩

end Configuration

end FluentGen
