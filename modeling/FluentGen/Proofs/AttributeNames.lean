import FluentGen.Proofs.Accounting
/-!
# The names of attributes

An attribute is asked for by a short name, and may be written with the ending that attributes have and
after a namespace. The ending is taken away first, so a name that has the ending itself is found only
where the ending is written twice. The attributes that ask for builders or set options have no such
names.

## Main definitions
* `Attribute.IsCalled`: whether an attribute is written with a name, or with the name and the ending.
* `Attribute.GoesBy`: whether asking for a name tells whether the attribute is called so.
* `Options.readers`: what reads the options of attributes, by name.

## Main statements
* `Text.lastSegment_eq_iff`: a name is the last segment of itself and of what has it after a dot.
* `Attribute.goesBy_iff`: asking fails just for a name with the ending that the attribute has.
* `selectsCalled`: the attributes that ask for builders and that set options are those called so.
-/
namespace FluentGen

/-! ## Dotted names -/

namespace Text

/-- What follows the last dot goes on to the end. -/
theorem lastSegment_append (text : String) {ending : String} (dotless : '.' ∉ ending.toList) :
    lastSegment (text ++ ending) = lastSegment text ++ ending := by
  have inside : ∀ c ∈ ending.toList.reverse, (c != '.') = true := by
    intro c hc
    rw [bne_iff_ne]
    rintro rfl
    exact dotless (List.mem_reverse.mp hc)
  apply String.toList_injective
  simp [lastSegment, List.takeWhile_append_of_pos inside]

/-- A name is what follows the last dot of itself, and of what ends in it after a dot. -/
theorem lastSegment_eq_iff {text name : String} (dotless : '.' ∉ name.toList) :
    lastSegment text = name ↔ text = name ∨ ∃ before, text = before ++ "." ++ name := by
  constructor
  · rintro rfl
    have split := List.takeWhile_append_dropWhile (p := (· != '.')) (l := text.toList.reverse)
    cases rest : text.toList.reverse.dropWhile (· != '.') with
    | nil =>
      rw [rest, List.append_nil] at split
      exact .inl (String.toList_injective (by simp [lastSegment, split]))
    | cons c before =>
      have dot : c = '.' := by
        simpa [rest] using List.head?_dropWhile_not (· != '.') text.toList.reverse
      refine .inr ⟨String.ofList before.reverse, String.toList_injective ?_⟩
      rw [rest, dot] at split
      simpa [lastSegment] using (congrArg List.reverse split).symm
  · rintro (rfl | ⟨before, rfl⟩)
    · exact (lastSegment_append "" dotless).trans String.empty_append
    · rw [lastSegment_append (before ++ ".") dotless]
      simp [lastSegment]

theorem lastSegment_suffix (text : String) : (lastSegment text).toList <:+ text.toList := by
  rw [lastSegment, String.toList_ofList, ← List.reverse_prefix, List.reverse_reverse]
  exact List.takeWhile_prefix _

theorem dropSuffix_append (text ending : String) : dropSuffix ending (text ++ ending) = text := by
  have ends : ending.toList.isSuffixOf (text ++ ending).toList = true := by simp
  apply String.toList_injective
  rw [dropSuffix, if_pos ends, String.toList_ofList, String.toList_append, String.length_append,
    Nat.add_sub_cancel, ← String.length_toList, List.take_left]

theorem dropSuffix_eq_self {text ending : String} (h : ¬ ending.toList <:+ text.toList) :
    dropSuffix ending text = text :=
  if_neg (by simpa using h)

end Text

/-! ## Names of attributes -/

namespace Attribute

/-- The ending that the names of attributes may be written with. -/
def ending : String := "Attribute"

/-- Whether an attribute is called `name`: behind its namespace it has this name, alone or with the
ending. -/
def IsCalled (a : Attribute) (name : String) : Prop :=
  Text.lastSegment a.name = name ∨ Text.lastSegment a.name = name ++ ending

instance (a : Attribute) (name : String) : Decidable (a.IsCalled name) :=
  inferInstanceAs (Decidable (_ ∨ _))

/-- Whether asking for a name tells whether the attribute is called so. -/
def GoesBy (a : Attribute) (name : String) : Prop :=
  a.isNamed name = true ↔ a.IsCalled name

instance (a : Attribute) (name : String) : Decidable (a.GoesBy name) :=
  inferInstanceAs (Decidable (_ ↔ _))

variable {a : Attribute} {name : String}

/-- Any namespace may stand in front. -/
theorem isCalled_iff (dotless : '.' ∉ name.toList) : a.IsCalled name ↔
    ∃ written ∈ [name, name ++ ending],
      a.name = written ∨ ∃ qualifier, a.name = qualifier ++ "." ++ written := by
  have dotless' : '.' ∉ (name ++ ending).toList := by simpa [dotless] using by decide
  simp only [IsCalled, Text.lastSegment_eq_iff dotless, Text.lastSegment_eq_iff dotless',
    List.mem_cons, List.not_mem_nil, or_false, exists_eq_or_imp, exists_eq_left]

theorem shortName_of_append {text : String} (h : a.name = text ++ ending) :
    a.shortName = Text.lastSegment text := by
  rw [shortName, h]
  exact congrArg Text.lastSegment (Text.dropSuffix_append text ending)

theorem shortName_of_not_suffix (h : ¬ ending.toList <:+ a.name.toList) :
    a.shortName = Text.lastSegment a.name :=
  congrArg Text.lastSegment (Text.dropSuffix_eq_self h)

/-- Asking for a name tells whether the attribute is called so, unless the attribute has just this
name and the name has the ending itself. -/
theorem goesBy_iff : a.GoesBy name ↔
    ¬ (Text.lastSegment a.name = name ∧ ending.toList <:+ name.toList) := by
  rw [GoesBy, isNamed, beq_iff_eq, IsCalled]
  by_cases ends : ending.toList <:+ a.name.toList
  · obtain ⟨chars, split⟩ := ends
    have whole : a.name = String.ofList chars ++ ending := String.toList_injective (by simp [split])
    generalize String.ofList chars = text at whole
    have dotless : '.' ∉ ending.toList := by decide
    rw [shortName_of_append whole, whole, Text.lastSegment_append text dotless,
      String.append_left_inj]
    constructor
    · rintro agree ⟨named, -⟩
      have longer : Text.lastSegment text ++ ending = Text.lastSegment text :=
        named.trans (agree.mpr (.inl named)).symm
      simpa [ending] using congrArg String.length longer
    · refine fun other => ⟨.inr, ?_⟩
      rintro (named | same)
      · exact absurd ⟨named, by simp [← named]⟩ other
      · exact same
  · -- The last segment is as the whole name in this, so it is no name with the ending.
    have plain : ¬ ending.toList <:+ (Text.lastSegment a.name).toList := fun h =>
      ends (h.trans (Text.lastSegment_suffix a.name))
    rw [shortName_of_not_suffix ends]
    constructor
    · rintro - ⟨rfl, named⟩
      exact plain named
    · refine fun _ => ⟨.inl, ?_⟩
      rintro (same | same)
      · exact same
      · exact absurd (by simp [same]) plain

theorem isNamed_eq (plain : ¬ ending.toList <:+ name.toList) :
    a.isNamed name = decide (a.IsCalled name) := by
  rw [Bool.eq_iff_iff, decide_eq_true_eq]
  exact goesBy_iff.mpr fun h => plain h.2

end Attribute

/-! ## The attributes that are selected -/

/-- What reads the options of attributes, by their names. -/
def Options.readers : List (String × (Attribute → Except GenerationError Options)) :=
  [("BuilderConfiguration", fun a =>
      (BuilderOptions.ofAttribute a 0).map fun builder => { builder }),
    ("MockingConfiguration", fun a =>
      (MockingOptions.ofAttribute a).map fun mocking => { mocking }),
    ("MoqConfiguration", fun a =>
      (MockingOptions.ofAttribute a).map fun mocking =>
        { mocking := MockingOptions.moq.overlay mocking }),
    ("FixtureConfiguration", fun a =>
      (FixtureOptions.ofAttribute a).map fun fixture => { fixture }),
    ("AutoFixtureConfiguration", fun a =>
      (FixtureOptions.ofAttribute a).map fun fixture =>
        { fixture := FixtureOptions.autoFixture.overlay fixture })]

/-- What reads the options of an attribute, if the attribute is called like one that sets options. -/
def Attribute.reader? (a : Attribute) : Option (Attribute → Except GenerationError Options) :=
  (Options.readers.find? fun entry => a.IsCalled entry.1).map (·.2)

/-- An attribute is read by how it is called. -/
theorem Options.ofAttribute_eq (a : Attribute) :
    Options.ofAttribute a = a.reader?.elim (.ok {}) (· a) := by
  have named : ∀ name ∈ readers.map (·.1), a.isNamed name = decide (a.IsCalled name) := by
    have plain : ∀ name ∈ readers.map (·.1), ¬ Attribute.ending.toList <:+ name.toList := by decide
    exact fun name h => Attribute.isNamed_eq (plain name h)
  simp only [readers, List.map_cons, List.map_nil, List.forall_mem_cons] at named
  obtain ⟨builder, mocking, moq, fixture, autoFixture, -⟩ := named
  simp only [Options.ofAttribute, builder, mocking, moq, fixture, autoFixture, Attribute.reader?,
    readers, List.find?_cons, List.find?_nil]
  grind

/-- Attributes that are called otherwise set nothing. -/
theorem Options.ofAttributes_filter (outer : Options) (attributes : List Attribute) :
    Options.ofAttributes outer (attributes.filter (·.reader?.isSome)) =
      Options.ofAttributes outer attributes := by
  induction attributes generalizing outer with
  | nil => rfl
  | cons a attributes ih =>
    cases read : a.reader? with
    | some reader => simp [read, Options.ofAttributes, ih]
    | none =>
      have nothing : Options.ofAttribute a = .ok {} := by rw [Options.ofAttribute_eq, read]; rfl
      simp [read, Options.ofAttributes, nothing, ih, bind, Except.bind]

/-- The units of a class are its attributes that are called like the one that asks for builders. -/
theorem NamedType.applied_units (builder : NamedType) (position : Nat) :
    ((builder.units position).map fun unit => (unit.builder, unit.application.applied)) =
      (builder.attributes.filter (·.IsCalled makeBuilder)).map (Prod.mk builder) := by
  have plain : ¬ Attribute.ending.toList <:+ makeBuilder.toList := by decide
  calc
    _ = (builder.units position).map fun unit => (builder, unit.application.applied) :=
      List.map_congr_left fun unit h => by rw [(position_of_mem_units h).2]
    _ = (((builder.units position).map (·.application)).map (·.applied)).map (Prod.mk builder) := by
      simp only [List.map_map, Function.comp_def]
    _ = (builder.attributes.filter (·.isNamed makeBuilder)).map (Prod.mk builder) := by
      rw [application_units, applied_applications]
    _ = _ := by simp only [Attribute.isNamed_eq plain]

/-- All units of a snapshot, class by class. -/
theorem Compilation.applied_units (model : Compilation) :
    (model.units.map fun unit => (unit.builder, unit.application.applied)) =
      model.types.flatMap fun builder =>
        (builder.attributes.filter (·.IsCalled makeBuilder)).map (Prod.mk builder) := by
  rw [units, List.map_flatMap]
  simp only [NamedType.applied_units]
  conv => rhs; rw [← List.zipIdx_map_fst 0 model.types, List.flatMap_map]

variable (a : Attribute) (name : String) (model : Compilation) (scope : Scope)
  (attributes : List Attribute) in
/-- An attribute is called a name that is written at its end, alone or with the ending, behind any
namespace. Asking for the name tells whether it is, unless the attribute has just this name and the
name has the ending itself. So the attributes that ask for builders are those called `MakeBuilder`,
and those that set options are the ones called like an attribute that does. -/
theorem selectsCalled :
    ('.' ∉ name.toList → (a.IsCalled name ↔
      ∃ written ∈ [name, name ++ Attribute.ending],
        a.name = written ∨ ∃ qualifier, a.name = qualifier ++ "." ++ written)) ∧
    (a.GoesBy name ↔ ¬ (Text.lastSegment a.name = name ∧ Attribute.ending.toList <:+ name.toList)) ∧
    (model.units.map fun unit => (unit.builder, unit.application.applied)) =
      model.types.flatMap (fun builder =>
        (builder.attributes.filter (·.IsCalled makeBuilder)).map (Prod.mk builder)) ∧
    Layer.ofAttributes scope attributes =
      Layer.ofAttributes scope (attributes.filter (·.reader?.isSome)) ∧
    Options.ofAttribute a = a.reader?.elim (.ok {}) (· a) := by
  refine ⟨Attribute.isCalled_iff, Attribute.goesBy_iff, model.applied_units, ?_,
    Options.ofAttribute_eq a⟩
  rw [Layer.ofAttributes, Layer.ofAttributes, Options.ofAttributes_filter]

/-- The attribute that asks for builders is found with namespace and ending, and one whose name only
ends like that is not. -/
theorem selectsCalled_qualified :
    let full : Attribute := { name := "Buildsmith.MakeBuilderAttribute" }
    let other : Attribute := { name := "Buildsmith.ReMakeBuilder" }
    let builder : NamedType := { name := "OrderBuilder", attributes := [full, other] }
    let model : Compilation := { types := [builder] }
    '.' ∉ "MakeBuilder".toList ∧
      (full.IsCalled "MakeBuilder" ∧ full.isNamed "MakeBuilder" = true) ∧
      (¬ other.IsCalled "MakeBuilder" ∧ other.isNamed "MakeBuilder" = false) ∧
      (model.units.map fun unit => (unit.builder, unit.application.applied)) = [(builder, full)] := by
  intro full other builder model
  have dotless : '.' ∉ "MakeBuilder".toList := by decide
  obtain ⟨calledFull, goesByFull, units, -⟩ :=
    selectsCalled full "MakeBuilder" model .type builder.attributes
  obtain ⟨-, goesByOther, -⟩ := selectsCalled other "MakeBuilder" model .type builder.attributes
  have called : full.IsCalled "MakeBuilder" :=
    (calledFull dotless).mpr ⟨"MakeBuilderAttribute", by decide, .inr ⟨"Buildsmith", rfl⟩⟩
  have uncalled : ¬ other.IsCalled "MakeBuilder" := by decide
  have found : full.GoesBy "MakeBuilder" := goesByFull.mpr (by decide)
  have missed : other.GoesBy "MakeBuilder" := goesByOther.mpr (by decide)
  exact ⟨dotless, ⟨called, found.mpr called⟩,
    ⟨uncalled, Bool.eq_false_iff.mpr (mt missed.mp uncalled)⟩, units.trans (by decide)⟩

/-- An attribute that is written with the ending is not found by the name that it is written with. -/
theorem Attribute.not_goesBy_ending :
    ¬ ({ name := "MakeBuilderAttribute" } : Attribute).GoesBy "MakeBuilderAttribute" := by
  decide

end FluentGen
