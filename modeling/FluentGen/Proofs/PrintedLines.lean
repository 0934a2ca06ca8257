import FluentGen.Diagnostic.Printer
import FluentGen.Proofs.Accounting
import FluentGen.Proofs.FilledTemplates
import FluentGen.Proofs.SnapshotRoundTrip
/-!
# One line for each diagnostic

A document has its line breaks escaped, so a diagnostic that is printed for programs takes one line
whatever it says. The text for people has names, options and paths in it as they are, and a line
break in one of them goes on to the output.

## Main definitions
* `Text.lines`, `Text.OnOneLine`: the lines of a text, and texts without line breaks.
* `DiagnosticFormat.PrintsLines`: whether diagnostics are printed with a line for each.
* `Diagnostic.IsComplete`: whether a diagnostic has the arguments that its message shows.

## Main statements
* `Text.lines_join_iff`: texts with line breaks between them are read back if they have none inside.
* `Json.IsPrintable.onOneLine_compact`: documents without blanks are on one line.
* `Diagnostic.IsComplete.onOneLine_display_iff`: what puts a line break into a diagnostic.
* `printsLines_iff`: the diagnostics of a run that are printed with a line for each.
-/
namespace FluentGen

/-! ## Lines -/

namespace Text

/-- The pieces of a text between its line breaks. -/
def lines (text : String) : List String :=
  (text.toList.splitOn '\n').map String.ofList

/-- Whether a text has no line break. -/
def OnOneLine (text : String) : Prop :=
  '\n' ∉ text.toList

instance (text : String) : Decidable (OnOneLine text) :=
  inferInstanceAs (Decidable ('\n' ∉ text.toList))

@[simp]
theorem onOneLine_append {a b : String} : OnOneLine (a ++ b) ↔ OnOneLine a ∧ OnOneLine b := by
  simp [OnOneLine]

theorem onOneLine_join {texts : List String} :
    OnOneLine (String.join texts) ↔ ∀ text ∈ texts, OnOneLine text := by
  simp [OnOneLine]

theorem onOneLine_toString_nat (n : Nat) : OnOneLine (toString n) := by
  rw [OnOneLine, Nat.toString_eq_repr, Nat.toList_repr]
  exact notMem_toDigits n (by decide)

/-- Texts with a line break after each are the lines of what they are put together to, and nothing
follows, if they have no line breaks themselves. -/
theorem lines_join_iff {texts : List String} :
    lines (String.join (texts.map (· ++ "\n"))) = texts ++ [""] ↔ ∀ text ∈ texts, OnOneLine text := by
  constructor
  · intro same text htext
    have piece : text ∈ lines (String.join (texts.map (· ++ "\n"))) := by simp [same, htext]
    obtain ⟨chars, hchars, rfl⟩ := List.mem_map.mp piece
    rw [OnOneLine, String.toList_ofList]
    exact notMem_of_mem_splitOn hchars
  · intro h
    have joined : (String.join (texts.map (· ++ "\n"))).toList =
        ['\n'].intercalate (texts.map String.toList ++ [[]]) := by
      clear h
      induction texts with
      | nil => rfl
      | cons text texts ih =>
        obtain ⟨next, others, split⟩ := List.exists_cons_of_ne_nil
          (List.append_ne_nil_of_right_ne_nil (texts.map String.toList) (List.cons_ne_nil [] []))
        rw [String.toList_join] at ih ⊢
        simp [ih, split]
    rw [lines, joined, List.splitOn_intercalate]
    · simp
    · simpa [or_imp, forall_and, OnOneLine] using h
    · simp

end Text

open Text (OnOneLine TemplatePart)

/-! ## Documents -/

namespace Json

/-- A line break is never spelled as it is. -/
theorem lineBreak_notMem_escapeChar (c : Char) : '\n' ∉ escapeChar c := by
  have digits : ∀ value < 16, Nat.digitChar value ≠ '\n' := by decide
  unfold escapeChar
  split
  case h_8 other _ _ =>
    split
    · next control =>
      have high := digits (c.toNat / 16) (by omega)
      have low := digits (c.toNat % 16) (by omega)
      simp [high.symm, low.symm]
    · simpa [eq_comm] using other
  all_goals decide

theorem onOneLine_printString (text : String) : OnOneLine (printString text) := by
  simp [OnOneLine, printString, lineBreak_notMem_escapeChar]

theorem onOneLine_toString_int (n : Int) : OnOneLine (toString n) := by
  rw [OnOneLine, toList_toString_int]
  split <;> simp [notMem_toDigits n.natAbs]

theorem onOneLine_printNumber {number : JsonNumber} (h : ∀ c ∈ number.fraction, c.isDigit) :
    OnOneLine (printNumber number) := by
  have fraction : '\n' ∉ number.fraction := fun mem => absurd (h _ mem) (by decide)
  obtain ⟨negative, integer, digits, exponent⟩ := number
  simp only [printNumber, Text.onOneLine_append, Text.onOneLine_toString_nat, and_true]
  refine ⟨⟨?_, ?_⟩, ?_⟩
  · cases negative with
    | false => exact (by decide : OnOneLine "")
    | true => exact (by decide : OnOneLine "-")
  · split
    · decide
    · exact Text.onOneLine_append.mpr ⟨by decide, by simpa [OnOneLine] using fraction⟩
  · cases exponent with
    | none => decide
    | some exponent => exact Text.onOneLine_append.mpr ⟨by decide, onOneLine_toString_int _⟩

theorem onOneLine_compactItems {items : List Json} (h : ∀ item ∈ items, OnOneLine item.compact) :
    OnOneLine (compactItems items) := by
  induction items with
  | nil => decide
  | cons item items ih =>
    obtain ⟨first, others⟩ := List.forall_mem_cons.mp h
    simp only [compactItems, Text.onOneLine_append]
    exact ⟨⟨by decide, first⟩, ih others⟩

theorem onOneLine_compactMembers {members : List (String × Json)}
    (h : ∀ member ∈ members, OnOneLine member.2.compact) :
    OnOneLine (compactMembers (keyed members)) := by
  induction members with
  | nil => decide
  | cons member members ih =>
    obtain ⟨first, others⟩ := List.forall_mem_cons.mp h
    simp only [keyed, List.map_cons, compactMembers, Text.onOneLine_append]
    exact ⟨⟨⟨⟨by decide, onOneLine_printString _⟩, by decide⟩, first⟩, ih others⟩

/-- A document is written without line breaks if it is written without blanks. -/
theorem IsPrintable.onOneLine_compact {value : Json} (h : value.IsPrintable) :
    OnOneLine value.compact := by
  induction h with
  | null => decide
  | bool value => cases value <;> decide
  | number number h => exact onOneLine_printNumber h
  | text text => exact onOneLine_printString text
  | array items _ ih =>
    cases items with
    | nil => decide
    | cons item items =>
      obtain ⟨first, others⟩ := List.forall_mem_cons.mp ih
      simp only [compact, Text.onOneLine_append]
      exact ⟨⟨⟨by decide, first⟩, onOneLine_compactItems others⟩, by decide⟩
  | object members _ ih =>
    cases members with
    | nil => decide
    | cons member members =>
      obtain ⟨first, others⟩ := List.forall_mem_cons.mp ih
      simp only [keyed, List.map_cons, compact, Text.onOneLine_append]
      exact ⟨⟨⟨⟨⟨by decide, onOneLine_printString _⟩, by decide⟩, first⟩,
        onOneLine_compactMembers others⟩, by decide⟩

end Json

/-! ## Diagnostics -/

/-- The message of a kind, in parts. -/
def DiagnosticKind.parts : DiagnosticKind → List TemplatePart
  | .buildOverride =>
    [.literal "Builder ", .placeholder 0,
      .literal (" declares Build(); the generated Build method is skipped and may be shadowed")]
  | .constructorOverride =>
    [.literal "Builder ", .placeholder 0,
      .literal (" declares a parameterless constructor; the generated constructor with its " ++
        "default values is skipped")]
  | .buildManyOverride =>
    [.literal "Builder ", .placeholder 0,
      .literal " declares BuildMany; the generated BuildMany method is skipped"]
  | .noConstructor =>
    [.literal "Cannot generate a Build method for ", .placeholder 0,
      .literal " because it has no accessible constructor; define Build() on ", .placeholder 1,
      .literal " yourself"]
  | .abstractEntity =>
    [.literal "Builder ", .placeholder 0, .literal " cannot build ", .placeholder 1,
      .literal " because it is abstract"]
  | .unitFailed =>
    [.literal "Generation of builder ", .placeholder 0, .literal " failed: ", .placeholder 1]
  | .incompatibleField =>
    [.literal "Field ", .placeholder 0, .literal " on builder ", .placeholder 1,
      .literal " has type ", .placeholder 2, .literal " but ", .placeholder 3,
      .literal " is required; member ", .placeholder 4, .literal " is not generated"]

/-- The number of arguments that a message shows. -/
def DiagnosticKind.arity (kind : DiagnosticKind) : Nat :=
  kind.parts.countP fun part => part matches .placeholder _

namespace DiagnosticKind

theorem template_eq (kind : DiagnosticKind) :
    kind.template = String.join (kind.parts.map TemplatePart.written) := by
  cases kind <;> decide +kernel

theorem arity_le (kind : DiagnosticKind) : kind.arity ≤ UInt64.size := by
  cases kind <;> decide

theorem placeholder_mem_parts (kind : DiagnosticKind) :
    ∀ index < kind.arity, .placeholder index ∈ kind.parts := by
  cases kind <;> decide

/-- The texts of a message are on one line. -/
theorem onOneLine_of_mem_parts (kind : DiagnosticKind) : ∀ part ∈ kind.parts,
    match part with
    | .literal text => OnOneLine text
    | .placeholder index => index < kind.arity := by
  cases kind <;>
    simp only [parts, List.forall_mem_cons, List.not_mem_nil, false_implies, implies_true,
      and_true] <;>
    decide

end DiagnosticKind

namespace Diagnostic

/-- Whether a diagnostic has the arguments that its message shows. -/
def IsComplete (diagnostic : Diagnostic) : Prop :=
  diagnostic.arguments.length = diagnostic.kind.arity

variable {diagnostic : Diagnostic}

theorem IsComplete.message_eq (complete : diagnostic.IsComplete) :
    diagnostic.message =
      String.join (diagnostic.kind.parts.map (TemplatePart.filled diagnostic.arguments)) := by
  have few : diagnostic.arguments.length ≤ UInt64.size :=
    Nat.le_trans (Nat.le_of_eq complete) diagnostic.kind.arity_le
  apply String.toList_injective
  rw [message, diagnostic.kind.template_eq]
  simpa [Text.expand, List.flatMap_map] using Text.expandChars_written few diagnostic.kind.parts

theorem IsComplete.onOneLine_message_iff (complete : diagnostic.IsComplete) :
    OnOneLine diagnostic.message ↔ ∀ argument ∈ diagnostic.arguments, OnOneLine argument := by
  rw [complete.message_eq, Text.onOneLine_join, List.forall_mem_map]
  constructor
  · intro h argument hargument
    obtain ⟨index, bound, rfl⟩ := List.getElem_of_mem hargument
    simpa [TemplatePart.filled, bound] using
      h _ (diagnostic.kind.placeholder_mem_parts index (complete ▸ bound))
  · intro h part hpart
    have fits := diagnostic.kind.onOneLine_of_mem_parts part hpart
    cases part with
    | literal text => exact fits
    | placeholder index =>
      have bound : index < diagnostic.arguments.length := complete ▸ fits
      simpa [TemplatePart.filled, bound] using h _ (List.getElem_mem bound)

theorem onOneLine_location (location : Location) :
    OnOneLine location.display ↔ OnOneLine location.file := by
  simp only [Location.display, Text.onOneLine_append, Text.onOneLine_toString_nat, and_true,
    and_iff_left (by decide : OnOneLine ":")]

/-- A diagnostic has the line breaks of its arguments and of the path of its location. -/
theorem IsComplete.onOneLine_display_iff (complete : diagnostic.IsComplete) :
    OnOneLine diagnostic.display ↔
      (∀ argument ∈ diagnostic.arguments, OnOneLine argument) ∧
        ∀ location ∈ diagnostic.location, OnOneLine location.file := by
  have label : OnOneLine diagnostic.severity.label := by
    cases diagnostic.severity <;> decide
  have id : OnOneLine diagnostic.kind.id := by
    cases diagnostic.kind <;> decide
  have place : OnOneLine (diagnostic.location.elim "" fun location =>
      " [at " ++ location.display ++ "]") ↔
        ∀ location ∈ diagnostic.location, OnOneLine location.file := by
    cases diagnostic.location with
    | none => exact iff_of_true (by decide) nofun
    | some location =>
      simp only [Option.elim_some, Text.onOneLine_append, onOneLine_location, Option.mem_some_iff,
        forall_eq', and_iff_left (by decide : OnOneLine "]"),
        and_iff_right (by decide : OnOneLine " [at ")]
  rw [display, Text.onOneLine_append, place]
  have blank : OnOneLine " " := by decide
  have colon : OnOneLine ": " := by decide
  simp only [Text.onOneLine_append, complete.onOneLine_message_iff, label, id, blank, colon,
    true_and]

theorem onOneLine_toJson (diagnostic : Diagnostic) : OnOneLine diagnostic.toJson.compact := by
  refine Json.IsPrintable.onOneLine_compact (Snapshot.isPrintable_record ?_)
  simp [Json.IsPrintable.text, Snapshot.isPrintable_option Snapshot.isPrintable_location]

end Diagnostic

/-! ## The diagnostics of a run -/

section Run

variable {model : Compilation} {diagnostic : Diagnostic}

open Diagnostic (IsComplete)

theorem isComplete_of_mem_synthesisDiagnostics {entity : Entity} {builder : NamedType}
    {plan : MemberPlan} (h : diagnostic ∈ synthesisDiagnostics entity builder plan) :
    diagnostic.IsComplete := by
  simp only [synthesisDiagnostics, List.mem_append, List.mem_map] at h
  obtain ((⟨skipped, -, rfl⟩ | h) | h) | h := h
  · rfl
  · unfold constructorDiagnostics at h
    split at h
    · obtain rfl := List.mem_singleton.mp h
      rfl
    · cases h
  · unfold buildDiagnostics at h
    split at h
    · obtain rfl := List.mem_singleton.mp h
      rfl
    · split at h
      · obtain rfl := List.mem_singleton.mp h
        rfl
      · cases h
  · unfold buildManyDiagnostics at h
    split at h
    · obtain rfl := List.mem_singleton.mp h
      rfl
    · cases h

theorem isComplete_of_mem_run {unit : GenerationUnit}
    (h : diagnostic ∈ (unit.run model).diagnostics) : diagnostic.IsComplete := by
  unfold GenerationUnit.run at h
  split at h
  next output generated =>
    unfold GenerationUnit.generate at generated
    split at generated
    · cases generated
    · obtain ⟨_, _, _, -, -, -, rfl⟩ := generateBuilder_eq_ok_iff.mp generated
      split at h
      · obtain rfl := List.mem_singleton.mp h
        rfl
      · exact isComplete_of_mem_synthesisDiagnostics h
  next =>
    obtain rfl := List.mem_singleton.mp h
    rfl

/-- Every diagnostic of a run has the arguments that its message shows. -/
theorem isComplete_of_mem_generate (h : diagnostic ∈ model.generate.diagnostics) :
    diagnostic.IsComplete := by
  rw [Compilation.generate, Report.diagnostics_ofOutputs, List.mem_flatMap] at h
  obtain ⟨output, houtput, h⟩ := h
  obtain ⟨unit, -, rfl⟩ := List.mem_map.mp houtput
  exact isComplete_of_mem_run h

end Run

namespace DiagnosticFormat

/-- Whether diagnostics are printed with a line for each: the lines of what is printed are their
texts, in order, and nothing follows the last line break. -/
def PrintsLines (format : DiagnosticFormat) (diagnostics : List Diagnostic) : Prop :=
  Text.lines (format.print diagnostics) = diagnostics.map format.line ++ [""]

theorem printsLines_iff_forall {format : DiagnosticFormat} {diagnostics : List Diagnostic} :
    format.PrintsLines diagnostics ↔
      ∀ diagnostic ∈ diagnostics, OnOneLine (format.line diagnostic) := by
  have joined := @Text.lines_join_iff (diagnostics.map format.line)
  rwa [List.map_map, List.forall_mem_map] at joined

end DiagnosticFormat

variable (model : Compilation) in
/-- Printed for programs, the diagnostics of a run always take one line each. Printed for people,
they do exactly when no line break stands in what they are about or in the path where they are. -/
theorem printsLines_iff :
    DiagnosticFormat.jsonLines.PrintsLines model.generate.diagnostics ∧
    (DiagnosticFormat.text.PrintsLines model.generate.diagnostics ↔
      ∀ diagnostic ∈ model.generate.diagnostics,
        (∀ argument ∈ diagnostic.arguments, OnOneLine argument) ∧
          ∀ location ∈ diagnostic.location, OnOneLine location.file) := by
  simp only [DiagnosticFormat.printsLines_iff_forall]
  constructor
  · exact fun diagnostic _ => diagnostic.onOneLine_toJson
  · exact forall₂_congr fun diagnostic h => (isComplete_of_mem_generate h).onOneLine_display_iff

/-- A builder whose setters are to start with a text on two lines. -/
def twoLinePrefix : Compilation where
  types :=
    [{ name := "Order", qualifier := "Shop" },
      { name := "OrderBuilder", qualifier := "Shop"
        attributes :=
          [⟨"MakeBuilder", [some (.type (.named "Shop" "Order" .classType)), some (.text "Wi\nth")],
            none⟩] }]

/-- The single diagnostic quotes the text, and takes a second line. -/
theorem not_printsLines_prefix :
    twoLinePrefix.generate.diagnostics.map (·.arguments) =
        [["OrderBuilder", "invalid configuration for 'buildingMethodsPrefix': " ++
          "'Wi\nth' is not a valid identifier prefix"]] ∧
      ¬ DiagnosticFormat.text.PrintsLines twoLinePrefix.generate.diagnostics := by
  have quoted : twoLinePrefix.generate.diagnostics.map (·.arguments) =
      [["OrderBuilder", "invalid configuration for 'buildingMethodsPrefix': " ++
        "'Wi\nth' is not a valid identifier prefix"]] := by
    decide +kernel
  refine ⟨quoted, fun printed => ?_⟩
  obtain ⟨diagnostic, single, arguments⟩ := List.map_eq_singleton_iff.mp quoted
  have here : diagnostic ∈ twoLinePrefix.generate.diagnostics := by
    rw [single]
    exact List.mem_singleton_self _
  have shown : OnOneLine diagnostic.display :=
    DiagnosticFormat.printsLines_iff_forall.mp printed diagnostic here
  have unbroken := ((isComplete_of_mem_generate here).onOneLine_display_iff.mp shown).1
  rw [arguments] at unbroken
  exact absurd unbroken (by decide)

end FluentGen
