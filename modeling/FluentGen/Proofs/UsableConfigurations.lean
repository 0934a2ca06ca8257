import FluentGen.Naming
import FluentGen.Proofs.Cascade
import FluentGen.Proofs.Numerals
import Mathlib.Data.List.DropRight
/-!
# Usable configurations

What generated code needs of a configuration, and how much of it is checked. Names of setters start with
the prefix and the factory method has its name from the configuration, so both have to be made of what
the language allows in identifiers. The prefix is only searched for characters that are no letters or
numbers of any kind, and the name of the factory method is not looked at.

## Main definitions
* `IdentifierChars`: the characters of identifiers, with `Begins` and `IsIdentifier`.
* `Configuration.Usable`: what generated code needs.
* `Configuration.Violates`: which option falls short of it, by its key.
* `YieldsUsable`: layers come to a usable configuration, or to an error about what is not usable.

## Main statements
* `Text.of_mem_commaItems`: the items of a list are trimmed texts without commas.
* `Configuration.violates_of_check_eq_error`: a configuration is not refused without reason.
* `yieldsUsable_iff`: when configurations that are accepted are usable.
-/
namespace FluentGen

/-- The characters that the language allows in identifiers. Letters and digits are among the letters and
numbers of all scripts. -/
structure IdentifierChars where
  isLetter : Char → Bool
  isDigit : Char → Bool
  /-- Marks, connectors and formatting characters, which may follow the first character. -/
  isMark : Char → Bool
  isAlphanumeric_of_isLetter : ∀ c, isLetter c = true → Text.isAlphanumeric c = true
  isAlphanumeric_of_isDigit : ∀ c, isDigit c = true → Text.isAlphanumeric c = true

namespace IdentifierChars

/-- Whether a character may come first. -/
def Starts (chars : IdentifierChars) (c : Char) : Prop :=
  chars.isLetter c = true ∨ c = '_'

instance (chars : IdentifierChars) (c : Char) : Decidable (chars.Starts c) :=
  inferInstanceAs (Decidable (_ ∨ _))

/-- Whether identifiers may begin with a text of letters, digits and underscores. -/
def Begins (chars : IdentifierChars) (text : String) : Prop :=
  ∃ first rest, text.toList = first :: rest ∧ chars.Starts first ∧
    ∀ c ∈ rest, chars.Starts c ∨ chars.isDigit c = true

/-- Whether a text is spelled like an identifier. -/
def Spells (chars : IdentifierChars) (text : String) : Prop :=
  ∃ first rest, text.toList = first :: rest ∧ chars.Starts first ∧
    ∀ c ∈ rest, chars.Starts c ∨ chars.isDigit c = true ∨ chars.isMark c = true

/-- Whether a text is an identifier: one that is not reserved, or anything spelled like one after an
`@`. -/
def IsIdentifier (chars : IdentifierChars) (text : String) : Prop :=
  (chars.Spells text ∧ text ∉ reservedWords) ∨ ∃ word, text = "@" ++ word ∧ chars.Spells word

end IdentifierChars

namespace Configuration

/-- What generated code needs of a configuration. -/
structure Usable (chars : IdentifierChars) (config : Configuration) : Prop where
  methodPrefix : chars.Begins config.builder.methodPrefix
  factoryMethod : ∀ name ∈ config.builder.factoryMethod, chars.IsIdentifier name
  mocking : config.mocking.strategy ≠ .none →
    Text.isBlankText config.mocking.typeFormat = false ∧
      Text.isBlankText config.mocking.valueFormat = false ∧
      Text.isBlankText config.mocking.objectFormat = false
  fixture : config.fixture.strategy ≠ .none →
    Text.isBlankText config.fixture.typeName = false ∧
      Text.isBlankText config.fixture.createFormat = false
  namespaces : ∀ name ∈ config.mocking.namespaces ++ config.fixture.namespaces,
    name ≠ "" ∧ Text.trim name = name ∧ ',' ∉ name.toList

/-- The options that are not usable, by their keys. -/
inductive Violates (chars : IdentifierChars) (config : Configuration) : String → Prop where
  | methodPrefix : ¬ chars.Begins config.builder.methodPrefix →
      Violates chars config "buildingMethodsPrefix"
  | typeFormat : config.mocking.strategy ≠ .none →
      Text.isBlankText config.mocking.typeFormat = true →
      Violates chars config "typeDeclarationFormat"
  | valueFormat : config.mocking.strategy ≠ .none →
      Text.isBlankText config.mocking.valueFormat = true →
      Violates chars config "fieldDefaultValueAssignmentFormat"
  | objectFormat : config.mocking.strategy ≠ .none →
      Text.isBlankText config.mocking.objectFormat = true →
      Violates chars config "returnObjectFormat"
  | typeName : config.fixture.strategy ≠ .none →
      Text.isBlankText config.fixture.typeName = true → Violates chars config "fixtureTypeName"
  | createFormat : config.fixture.strategy ≠ .none →
      Text.isBlankText config.fixture.createFormat = true →
      Violates chars config "createSingleFormat"

end Configuration

/-- Layers come to a usable configuration, or to an error that names an option which is not usable. -/
def YieldsUsable (chars : IdentifierChars) (layers : List Layer) (nullableEnabled : Bool) : Prop :=
  match Configuration.ofLayers layers nullableEnabled with
  | .ok config => config.Usable chars
  | .error error => ∃ key problem, error = .invalidOption key problem ∧
      (Configuration.ofOptions (.merged layers) nullableEnabled).Violates chars key

variable {chars : IdentifierChars} {config : Configuration}

/-! ## Texts -/

namespace Text

/-- No blank is a letter or a number. -/
theorem isAlphanumeric_of_isBlank {c : Char} (h : isBlank c = true) : isAlphanumeric c = false := by
  have apart : ∀ blanks ∈ blankSet, ∀ letters ∈ alphanumericSet,
      blanks.2 < letters.1 ∨ letters.2 < blanks.1 := by decide +kernel
  obtain ⟨blanks, hblanks, low, high⟩ := CharSet.contains_iff.mp h
  rw [isAlphanumeric, Bool.eq_false_iff, ne_eq, CharSet.contains_iff]
  rintro ⟨letters, hletters, low', high'⟩
  have ordered := apart blanks hblanks letters hletters
  omega

/-- Dropping at the end does not bring items to the front that are dropped there. -/
theorem dropWhile_trimEnd_dropWhile (text : List Char) :
    (trimEnd (text.dropWhile isBlank)).dropWhile isBlank = trimEnd (text.dropWhile isBlank) := by
  rw [List.dropWhile_eq_self_iff]
  intro nonempty
  have kept : (trimEnd (text.dropWhile isBlank)) <+: text.dropWhile isBlank :=
    List.rdropWhile_prefix _ _
  have first := List.dropWhile_get_zero_not isBlank text (nonempty.trans_le kept.length_le)
  rwa [List.get_eq_getElem, ← kept.getElem nonempty] at first

theorem trim_trim (text : String) : trim (trim text) = trim text := by
  simp only [trim, String.toList_ofList, dropWhile_trimEnd_dropWhile]
  exact congrArg _ (List.rdropWhile_idempotent isBlank _)

theorem mem_of_mem_trim {c : Char} {text : String} (h : c ∈ (trim text).toList) :
    c ∈ text.toList := by
  rw [trim, String.toList_ofList] at h
  exact (List.dropWhile_sublist _).subset ((List.rdropWhile_prefix isBlank _).subset h)

/-- The items of a list are trimmed texts without commas, and none is empty. -/
theorem of_mem_commaItems {text item : String} (h : item ∈ commaItems text) :
    item ≠ "" ∧ trim item = item ∧ ',' ∉ item.toList := by
  obtain ⟨hitem, nonempty⟩ := List.mem_filter.mp h
  obtain ⟨piece, hpiece, rfl⟩ := List.mem_map.mp hitem
  refine ⟨by simpa using nonempty, trim_trim _, fun comma => ?_⟩
  have inside := mem_of_mem_trim comma
  rw [String.toList_ofList] at inside
  exact notMem_of_mem_splitOn hpiece inside

end Text

/-! ## The prefix -/

namespace IdentifierChars

theorem isAlphanumeric_of_starts {c : Char} (h : chars.Starts c) :
    Text.isAlphanumeric c = true ∨ c = '_' :=
  h.imp_left (chars.isAlphanumeric_of_isLetter c)

theorem Begins.forall_mem {text : String} (h : chars.Begins text) :
    ∀ c ∈ text.toList, Text.isAlphanumeric c = true ∨ c = '_' := by
  obtain ⟨first, rest, text_eq, starts, follow⟩ := h
  rw [text_eq, List.forall_mem_cons]
  refine ⟨isAlphanumeric_of_starts starts, fun c hc => ?_⟩
  rcases follow c hc with starts | digit
  · exact isAlphanumeric_of_starts starts
  · exact .inl (chars.isAlphanumeric_of_isDigit c digit)

theorem isBlank_of_starts {c : Char} (h : chars.Starts c) : Text.isBlank c = false := by
  rcases isAlphanumeric_of_starts h with letter | rfl
  · by_contra blank
    rw [Text.isAlphanumeric_of_isBlank (by simpa using blank)] at letter
    cases letter
  · decide

theorem Begins.shows {text : String} (h : chars.Begins text) : Text.Shows text := by
  obtain ⟨first, rest, text_eq, starts, -⟩ := h
  rw [← Text.isBlankText_eq_false_iff, Text.isBlankText, text_eq, List.all_cons,
    isBlank_of_starts starts, Bool.false_and]

/-- A prefix that is accepted begins identifiers if its letters and numbers are those of the language
and the first character is none of the numbers. -/
theorem begins_iff {text : String} (shows : Text.Shows text)
    (characters : ∀ c ∈ text.toList, Text.isAlphanumeric c = true ∨ c = '_') :
    chars.Begins text ↔ (∀ c ∈ text.toList.head?, chars.Starts c) ∧
      ∀ c ∈ text.toList, Text.isAlphanumeric c = true →
        chars.isLetter c = true ∨ chars.isDigit c = true := by
  have underscore : Text.isAlphanumeric '_' = false := by decide +kernel
  cases parts : text.toList with
  | nil => simp [Text.Shows, parts] at shows
  | cons first rest =>
    simp only [Begins, Starts, parts, List.cons.injEq, List.head?_cons] at characters ⊢
    grind

end IdentifierChars

/-! ## What is checked -/

namespace Configuration

theorem requireText_eq_error_iff {key value : String} {error : GenerationError} :
    requireText key value = .error error ↔
      Text.isBlankText value = true ∧ error = .invalidOption key .blank := by
  cases blank : Text.isBlankText value <;> simp [requireText, blank, @eq_comm _ error]

variable (chars) in
/-- A prefix is refused only if no identifiers begin with it. -/
theorem not_begins_of_checkPrefix_eq_error {text : String} {error : GenerationError}
    (h : checkPrefix text = .error error) :
    (∃ problem, error = .invalidOption "buildingMethodsPrefix" problem) ∧ ¬ chars.Begins text := by
  constructor
  · unfold checkPrefix at h
    grind
  · intro begins
    rw [checkPrefix_eq_ok_iff.mpr ⟨begins.shows, begins.forall_mem⟩] at h
    cases h

/-- A configuration is refused only for an option that is not usable, which the error names. -/
theorem violates_of_check_eq_error {error : GenerationError} (h : config.check = .error error) :
    ∃ key problem, error = .invalidOption key problem ∧ config.Violates chars key := by
  rw [check, then_eq_error_iff] at h
  rcases h with h | ⟨-, h⟩
  · obtain ⟨⟨problem, rfl⟩, violated⟩ := not_begins_of_checkPrefix_eq_error chars h
    exact ⟨_, _, rfl, .methodPrefix violated⟩
  · by_cases mocks : config.mocking.strategy = .none <;>
      by_cases makesUp : config.fixture.strategy = .none <;>
      simp only [mocks, makesUp, ne_eq, not_true_eq_false, not_false_eq_true, if_true, if_false,
        then_eq_error_iff, requireText_eq_error_iff, pure, Except.pure, reduceCtorEq, and_false,
        or_false] at h
    -- One case is left for each domain that is used, and both together.
    all_goals grind [Violates]

theorem violates_of_ofLayers_eq_error {layers : List Layer} {nullableEnabled : Bool}
    {error : GenerationError} (h : ofLayers layers nullableEnabled = .error error) :
    ∃ key problem, error = .invalidOption key problem ∧
      (ofOptions (.merged layers) nullableEnabled).Violates chars key := by
  rw [ofLayers, then_eq_error_iff] at h
  obtain refused | ⟨-, h⟩ := h
  · exact violates_of_check_eq_error refused
  · cases h

theorem of_mem_namespaces_ofOptions {options : Options} {nullableEnabled : Bool} {name : String}
    (h : name ∈ (ofOptions options nullableEnabled).mocking.namespaces ++
      (ofOptions options nullableEnabled).fixture.namespaces) :
    name ≠ "" ∧ Text.trim name = name ∧ ',' ∉ name.toList := by
  have items : ∀ namespaces : Option String, name ∈ splitNamespaces namespaces →
      name ≠ "" ∧ Text.trim name = name ∧ ',' ∉ name.toList := by
    rintro (- | text) hname
    · cases hname
    · exact Text.of_mem_commaItems hname
  exact (List.mem_append.mp h).elim (items _) (items _)

/-- An accepted configuration is usable if this holds of its prefix and its factory method. -/
theorem usable_ofOptions_iff {options : Options} {nullableEnabled : Bool}
    (valid : (ofOptions options nullableEnabled).Valid) :
    (ofOptions options nullableEnabled).Usable chars ↔
      chars.Begins (ofOptions options nullableEnabled).builder.methodPrefix ∧
        ∀ name ∈ (ofOptions options nullableEnabled).builder.factoryMethod,
          chars.IsIdentifier name :=
  ⟨fun usable => ⟨usable.methodPrefix, usable.factoryMethod⟩, fun ⟨begins, identifier⟩ =>
    ⟨begins, identifier, by simpa only [Text.isBlankText_eq_false_iff] using valid.mocking,
      by simpa only [Text.isBlankText_eq_false_iff] using valid.fixture,
      fun _ => of_mem_namespaces_ofOptions⟩⟩

end Configuration

/-- Errors are always about options that are not usable. Configurations are usable exactly where the
prefix does not begin with a number, its other letters and numbers are letters and digits, and the name
of the factory method is an identifier. -/
theorem yieldsUsable_iff {layers : List Layer} {nullableEnabled : Bool} :
    YieldsUsable chars layers nullableEnabled ↔
      ∀ config, Configuration.ofLayers layers nullableEnabled = .ok config →
        (∀ c ∈ config.builder.methodPrefix.toList.head?, chars.Starts c) ∧
        (∀ c ∈ config.builder.methodPrefix.toList, Text.isAlphanumeric c = true →
          chars.isLetter c = true ∨ chars.isDigit c = true) ∧
        ∀ name ∈ config.builder.factoryMethod, chars.IsIdentifier name := by
  unfold YieldsUsable
  cases outcome : Configuration.ofLayers layers nullableEnabled with
  | error error =>
    exact iff_of_true (Configuration.violates_of_ofLayers_eq_error outcome) fun _ => nofun
  | ok config =>
    obtain ⟨valid, rfl⟩ := Configuration.ofLayers_eq_ok_iff.mp outcome
    simp only [Except.ok.injEq, forall_eq', Configuration.usable_ofOptions_iff valid,
      IdentifierChars.begins_iff valid.prefix_shows valid.prefix_identifier, and_assoc]

theorem Text.isAlphanumeric_of_between {low high c : Char}
    (listed : (low.toNat, high.toNat) ∈ Text.alphanumericSet) (above : low.val ≤ c.val)
    (below : c.val ≤ high.val) : Text.isAlphanumeric c = true :=
  Text.CharSet.contains_iff.mpr
    ⟨_, listed, UInt32.le_iff_toNat_le.mp above, UInt32.le_iff_toNat_le.mp below⟩

/-- Identifiers of the letters and digits that are in ASCII. -/
def IdentifierChars.ascii : IdentifierChars where
  isLetter := Char.isAlpha
  isDigit := Char.isDigit
  isMark _ := false
  isAlphanumeric_of_isLetter c h := by
    rcases Bool.or_eq_true_iff.mp h with upper | lower
    · obtain ⟨above, below⟩ : 'A'.val ≤ c.val ∧ c.val ≤ 'Z'.val := of_decide_eq_true upper
      exact Text.isAlphanumeric_of_between (by decide +kernel) above below
    · obtain ⟨above, below⟩ := Bool.and_eq_true_iff.mp lower
      exact Text.isAlphanumeric_of_between (by decide +kernel) (of_decide_eq_true above)
        (of_decide_eq_true below)
  isAlphanumeric_of_isDigit c h := by
    obtain ⟨above, below⟩ := Bool.and_eq_true_iff.mp h
    exact Text.isAlphanumeric_of_between (by decide +kernel) (of_decide_eq_true above)
      (of_decide_eq_true below)

/-- The options of a builder class. -/
def Layer.ofBuilder (options : BuilderOptions) : Layer :=
  ⟨.type, { builder := options }⟩

/-- A prefix that begins with a digit is accepted, and so is a factory method of two words. -/
theorem not_yieldsUsable_ascii :
    ¬ YieldsUsable .ascii [.ofBuilder { methodPrefix := some "1With" }] false ∧
    ¬ YieldsUsable .ascii [.ofBuilder { factoryMethod := some "Create Order" }] false := by
  constructor
  · intro usable
    obtain ⟨first, rest, text, starts, -⟩ := Configuration.Usable.methodPrefix usable
    obtain rfl : '1' = first := (List.cons.inj text).1
    exact absurd starts (by decide)
  · intro usable
    rcases Configuration.Usable.factoryMethod usable _ rfl with ⟨spells, -⟩ | ⟨word, text, -⟩
    · obtain ⟨first, rest, text, -, follow⟩ := spells
      obtain rfl := (List.cons.inj text).2
      exact absurd (follow ' ' (by decide)) (by decide)
    · exact absurd (congrArg String.toList text) (by simp)

end FluentGen
