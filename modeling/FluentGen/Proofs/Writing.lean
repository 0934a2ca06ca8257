import FluentGen.Proofs.Members
import FluentGen.Proofs.Mentions
/-!
# Writing step by step

The text of a class can be written from the top down by a writer that only knows how deep it stands
and whether a block was just opened. It is told to open and close blocks, and to leave a gap in front
of every member; the blank line between two members is a gap that it does not leave out.

## Main definitions
* `Writer`, `Writer.Step`: a writer, and what it is told.
* `Writer.Nested`: steps that close everything they open, in the opposite order.
* `Writer.StaysInside`: whether a writer never goes out further than to the margin.
* `Layout.steps`, `GeneratedClass.steps`: the steps that write a layout or a class.
* `Layout.IsVisible`: whether no line of a layout is blank.

## Main statements
* `Writer.Nested.depth_run`: a writer comes back to where it was.
* `Writer.Nested.staysInside`: a writer does not go out of what it was in before.
* `Layout.run_allSteps`: the steps of a layout write its lines.
* `GeneratedClass.text_run_steps`: the steps of a class write its text.
-/
namespace FluentGen

/-- Someone who writes lines, each of them as deep as the blocks that are open. -/
structure Writer where
  text : String := ""
  depth : Nat := 0
  /-- Whether nothing stands before the next line in its block, or a gap does. -/
  atStart : Bool := true
  deriving DecidableEq, Repr

namespace Writer

/-- What a writer is told to do. -/
inductive Step where
  | line (text : String)
  /-- An opening brace; what follows stands deeper. -/
  | openBlock
  /-- A closing brace, less deep again. -/
  | closeBlock (suffix : String)
  | indent
  | outdent
  /-- A blank line, unless the writer is at the start of a block. -/
  | gap
  deriving DecidableEq, Repr

/-- Writes a line. -/
def writeLine (w : Writer) (text : String) : Writer where
  text := w.text ++ Layout.indentation w.depth ++ text ++ "\n"
  depth := w.depth
  atStart := false

/-- Does what it is told. At the margin, going out changes nothing. -/
def step (w : Writer) : Step → Writer
  | .line text => w.writeLine text
  | .openBlock => { w.writeLine "\x7b" with depth := w.depth + 1, atStart := true }
  | .closeBlock suffix => { w with depth := w.depth - 1 }.writeLine ("\x7d" ++ suffix)
  | .indent => { w with depth := w.depth + 1 }
  | .outdent => { w with depth := w.depth - 1 }
  | .gap => if w.atStart then w else { w with text := w.text ++ "\n", atStart := true }

/-- Does one thing after the other. -/
def run (w : Writer) (steps : List Step) : Writer :=
  steps.foldl step w

/-- Whether a step leads out. -/
def Step.leadsOut : Step → Bool
  | .closeBlock _ | .outdent => true
  | .line _ | .openBlock | .indent | .gap => false

/-- Whether a writer is told to go out only where it is not at the margin. -/
def StaysInside (w : Writer) : List Step → Prop
  | [] => True
  | step :: steps => (step.leadsOut = true → 0 < w.depth) ∧ (w.step step).StaysInside steps

/-- Steps that close every block that they open, and take back every indentation, in the opposite
order. -/
inductive Nested : List Step → Prop where
  | nil : Nested []
  | line {steps : List Step} (text : String) : Nested steps → Nested (.line text :: steps)
  | gap {steps : List Step} : Nested steps → Nested (.gap :: steps)
  | block {body steps : List Step} (suffix : String) :
    Nested body → Nested steps → Nested (.openBlock :: (body ++ .closeBlock suffix :: steps))
  | indented {body steps : List Step} :
    Nested body → Nested steps → Nested (.indent :: (body ++ .outdent :: steps))

variable {w : Writer} {steps others : List Step}

@[simp]
theorem run_nil (w : Writer) : w.run [] = w := rfl

@[simp]
theorem run_cons (w : Writer) (step : Step) (steps : List Step) :
    w.run (step :: steps) = (w.step step).run steps := rfl

@[simp]
theorem run_append (w : Writer) (steps others : List Step) :
    w.run (steps ++ others) = (w.run steps).run others :=
  List.foldl_append

theorem staysInside_append :
    w.StaysInside (steps ++ others) ↔ w.StaysInside steps ∧ (w.run steps).StaysInside others := by
  induction steps generalizing w with
  | nil => simp [StaysInside]
  | cons step steps ih => rw [List.cons_append, StaysInside, ih, StaysInside, and_assoc, run_cons]

namespace Nested

theorem append (h : Nested steps) (h' : Nested others) : Nested (steps ++ others) := by
  induction h with
  | nil => exact h'
  | line text _ ih => exact .line text ih
  | gap _ ih => exact .gap ih
  | block suffix body _ _ ih =>
    rw [List.cons_append, List.append_assoc, List.cons_append]
    exact .block suffix body ih
  | indented body _ _ ih =>
    rw [List.cons_append, List.append_assoc, List.cons_append]
    exact .indented body ih

theorem flatMap {α : Type} {items : List α} {f : α → List Step} (h : ∀ item ∈ items, Nested (f item)) :
    Nested (items.flatMap f) := by
  induction items with
  | nil => exact .nil
  | cons item items ih =>
    obtain ⟨first, others⟩ := List.forall_mem_cons.mp h
    rw [List.flatMap_cons]
    exact first.append (ih others)

theorem lines (texts : List String) : Nested (texts.map .line) := by
  induction texts with
  | nil => exact .nil
  | cons text texts ih => exact .line text ih

/-- A writer comes back to where it was. -/
theorem depth_run (h : Nested steps) (w : Writer) : (w.run steps).depth = w.depth := by
  induction h generalizing w with
  | nil => rfl
  | line text _ ih => exact ih _
  | gap _ ih =>
    rw [run_cons, ih, step]
    split <;> rfl
  | block suffix _ _ body ih =>
    rw [run_cons, run_append, run_cons, ih]
    exact congrArg (· - 1) (body _)
  | indented _ _ body ih =>
    rw [run_cons, run_append, run_cons, ih]
    exact congrArg (· - 1) (body _)

/-- A writer is told to go out only of what it was told to go into. -/
theorem staysInside (h : Nested steps) (w : Writer) : w.StaysInside steps := by
  induction h generalizing w with
  | nil => trivial
  | line text _ ih => exact ⟨nofun, ih _⟩
  | gap _ ih => exact ⟨nofun, ih _⟩
  | block suffix inside _ body ih =>
    refine ⟨nofun, staysInside_append.mpr ⟨body _, fun _ => ?_, ih _⟩⟩
    rw [inside.depth_run]
    exact Nat.succ_pos _
  | indented inside _ body ih =>
    refine ⟨nofun, staysInside_append.mpr ⟨body _, fun _ => ?_, ih _⟩⟩
    rw [inside.depth_run]
    exact Nat.succ_pos _

end Nested

/-- Whether the line that a writer is told to write has a property, whatever its depth. -/
def Step.Writes (P : String → Prop) : Step → Prop
  | .line text => P text
  | .openBlock => P "\x7b"
  | .closeBlock suffix => P ("\x7d" ++ suffix)
  | .indent | .outdent => True
  | .gap => P ""

end Writer

namespace Text

@[simp]
theorem isBlankText_append (a b : String) :
    isBlankText (a ++ b) = (isBlankText a && isBlankText b) := by
  simp [isBlankText]

end Text

open Text (isBlankText)

/-! ## Layouts -/

namespace Layout

open Writer (Step Nested)

mutual
/-- What a writer is told for a piece. -/
def steps : Layout → List Step
  | .line text => [.line text]
  | .blank => [.gap]
  | .block body suffix => .openBlock :: (allSteps body ++ [.closeBlock suffix])
  | .indented body => .indent :: (allSteps body ++ [.outdent])
/-- What a writer is told for several pieces. -/
def allSteps : List Layout → List Step
  | [] => []
  | piece :: pieces => piece.steps ++ allSteps pieces
end

mutual
theorem nested_steps (piece : Layout) : Nested piece.steps := by
  cases piece with
  | line text => exact .line text .nil
  | blank => exact .gap .nil
  | block body suffix => exact .block suffix (nested_allSteps body) .nil
  | indented body => exact .indented (nested_allSteps body) .nil
theorem nested_allSteps (pieces : List Layout) : Nested (allSteps pieces) := by
  cases pieces with
  | nil => exact .nil
  | cons piece pieces => exact (nested_steps piece).append (nested_allSteps pieces)
end

/-- Lines with a line break after each. -/
def printed (lines : List String) : String :=
  String.join (lines.map (· ++ "\n"))

theorem render_eq_printed (pieces : List Layout) : render pieces = printed (allLines 0 pieces) :=
  rfl

@[simp]
theorem printed_nil : printed [] = "" := rfl

@[simp]
theorem printed_cons (line : String) (lines : List String) :
    printed (line :: lines) = line ++ "\n" ++ printed lines := by
  simp [printed, String.join_cons]

@[simp]
theorem printed_append (lines others : List String) :
    printed (lines ++ others) = printed lines ++ printed others := by
  simp [printed, String.join_append]

theorem allSteps_eq_flatMap (pieces : List Layout) : allSteps pieces = pieces.flatMap steps := by
  induction pieces with
  | nil => rfl
  | cons piece pieces ih => rw [allSteps, ih, List.flatMap_cons]

/-- Whether all that a writer is told for a piece has a property. -/
def Meets (P : Step → Prop) (piece : Layout) : Prop :=
  ∀ step ∈ piece.steps, P step

section Meets

variable {P : Step → Prop}

theorem forall_mem_allSteps {pieces : List Layout} :
    (∀ step ∈ allSteps pieces, P step) ↔ ∀ piece ∈ pieces, piece.Meets P := by
  rw [allSteps_eq_flatMap, List.forall_mem_flatMap]
  rfl

@[simp]
theorem meets_line {text : String} : (line text).Meets P ↔ P (.line text) := by
  simp [Meets, steps]

@[simp]
theorem meets_blank : blank.Meets P ↔ P .gap := by
  simp [Meets, steps]

@[simp]
theorem meets_block {body : List Layout} {suffix : String} :
    (block body suffix).Meets P ↔
      P .openBlock ∧ (∀ piece ∈ body, piece.Meets P) ∧ P (.closeBlock suffix) := by
  simp [Meets, steps, forall_mem_allSteps, or_imp, forall_and]

@[simp]
theorem meets_indented {body : List Layout} :
    (indented body).Meets P ↔ P .indent ∧ (∀ piece ∈ body, piece.Meets P) ∧ P .outdent := by
  simp [Meets, steps, forall_mem_allSteps, or_imp, forall_and]

theorem Meets.imp {Q : Step → Prop} {piece : Layout} (h : piece.Meets P)
    (weaker : ∀ step, P step → Q step) : piece.Meets Q :=
  fun step hstep => weaker step (h step hstep)

end Meets

/-- Whether no line of a piece is blank. -/
def IsVisible (piece : Layout) : Prop :=
  piece.Meets (·.Writes (isBlankText · = false))

@[simp]
theorem isVisible_line {text : String} : (line text).IsVisible ↔ isBlankText text = false :=
  meets_line

@[simp]
theorem isVisible_block {body : List Layout} {suffix : String} :
    (block body suffix).IsVisible ↔ ∀ piece ∈ body, piece.IsVisible := by
  have closing : isBlankText "\x7d" = false := by decide
  have opening : isBlankText "\x7b" = false := by decide
  simp [IsVisible, Writer.Step.Writes, opening, closing]

@[simp]
theorem isVisible_indented {body : List Layout} :
    (indented body).IsVisible ↔ ∀ piece ∈ body, piece.IsVisible := by
  simp [IsVisible, Writer.Step.Writes]

/-- A gap would be a blank line. -/
theorem IsVisible.ungapped {piece : Layout} (h : piece.IsVisible) : piece.Meets (· ≠ .gap) :=
  h.imp fun step shown same => by
    subst same
    exact absurd shown (by decide : ¬ isBlankText "" = false)

mutual
theorem run_steps {piece : Layout} (h : piece.Meets (· ≠ .gap)) (w : Writer) :
    w.run piece.steps =
      ⟨w.text ++ printed (piece.lines w.depth), w.depth,
        w.atStart && (piece.lines w.depth).isEmpty⟩ := by
  cases piece with
  | line text => simp [steps, lines, Writer.step, Writer.writeLine, String.append_assoc]
  | blank => exact absurd rfl (meets_blank.mp h)
  | block body suffix =>
    simp [steps, lines, run_allSteps (meets_block.mp h).2.1, Writer.step, Writer.writeLine,
      String.append_assoc]
  | indented body =>
    simp [steps, lines, run_allSteps (meets_indented.mp h).2.1, Writer.step]
theorem run_allSteps {pieces : List Layout} (h : ∀ piece ∈ pieces, piece.Meets (· ≠ .gap))
    (w : Writer) :
    w.run (allSteps pieces) =
      ⟨w.text ++ printed (allLines w.depth pieces), w.depth,
        w.atStart && (allLines w.depth pieces).isEmpty⟩ := by
  cases pieces with
  | nil => simp [allSteps, allLines]
  | cons piece pieces =>
    obtain ⟨first, others⟩ := List.forall_mem_cons.mp h
    have empty : (piece.lines w.depth ++ allLines w.depth pieces).isEmpty =
        ((piece.lines w.depth).isEmpty && (allLines w.depth pieces).isEmpty) := by
      cases piece.lines w.depth <;> rfl
    simp [allSteps, allLines, run_steps first, run_allSteps others, empty, Bool.and_assoc,
      String.append_assoc]
end

theorem allSteps_lines (texts : List String) :
    allSteps (texts.map line) = texts.map Step.line := by
  induction texts with
  | nil => rfl
  | cons text texts ih => simp [allSteps, steps, ih]

theorem run_lines (texts : List String) (w : Writer) :
    w.run (texts.map .line) =
      ⟨w.text ++ printed (allLines w.depth (texts.map line)), w.depth,
        w.atStart && (allLines w.depth (texts.map line)).isEmpty⟩ := by
  rw [← allSteps_lines, run_allSteps (List.forall_mem_map.mpr fun text _ => by simp)]

theorem intercalate_singleton_cons {α : Type} (separator : α) (group : List α)
    (groups : List (List α)) :
    [separator].intercalate (group :: groups) = group ++ groups.flatMap (separator :: ·) := by
  induction groups generalizing group with
  | nil => simp
  | cons next groups ih => simp [List.intercalate_cons_cons, ih]

theorem allLines_append (depth : Nat) (pieces others : List Layout) :
    allLines depth (pieces ++ others) = allLines depth pieces ++ allLines depth others := by
  simp [allLines_eq_flatMap]

theorem allLines_lines (depth : Nat) (texts : List String) :
    allLines depth (texts.map line) = texts.map (indentation depth ++ ·) := by
  induction texts with
  | nil => rfl
  | cons text texts ih => rw [List.map_cons, allLines, ih, lines, List.map_cons, List.singleton_append]

theorem allLines_zero_lines (texts : List String) : allLines 0 (texts.map line) = texts := by
  have margin : indentation 0 = "" := rfl
  simp [allLines_lines, margin]

/-- Whether pieces begin with a line, and no blank line is among them. -/
def IsGroup (pieces : List Layout) : Prop :=
  (∀ piece ∈ pieces, piece.Meets (· ≠ .gap)) ∧ ∃ first others, pieces = .line first :: others

/-- What a writer is told for groups of pieces: to leave a gap in front of each. -/
def gappedSteps (groups : List (List Layout)) : List Step :=
  groups.flatMap fun group => .gap :: allSteps group

theorem IsGroup.run_allSteps {group : List Layout} (h : IsGroup group) (w : Writer) :
    w.run (allSteps group) =
      ⟨w.text ++ printed (allLines w.depth group), w.depth, false⟩ := by
  obtain ⟨solid, first, others, rfl⟩ := h
  rw [Layout.run_allSteps solid]
  simp [allLines, lines]

section Gaps

variable {groups : List (List Layout)} {w : Writer}

/-- Away from the start of a block no gap is left out. -/
theorem run_gappedSteps (h : ∀ group ∈ groups, IsGroup group) (after : w.atStart = false) :
    w.run (gappedSteps groups) =
      ⟨w.text ++ printed (allLines w.depth (groups.flatMap (blank :: ·))), w.depth, false⟩ := by
  induction groups generalizing w with
  | nil => simp [gappedSteps, allLines, ← after]
  | cons group groups ih =>
    obtain ⟨first, others⟩ := List.forall_mem_cons.mp h
    have gap : w.step .gap = ⟨w.text ++ "\n", w.depth, true⟩ := by simp [Writer.step, after]
    rw [gappedSteps, List.flatMap_cons, List.cons_append, Writer.run_cons, gap, Writer.run_append,
      first.run_allSteps, ← gappedSteps, ih others rfl]
    simp [allLines, allLines_append, lines, String.append_assoc]

theorem IsGroup.ne_nil {group : List Layout} (h : IsGroup group) : group ≠ [] := by
  obtain ⟨-, first, others, rfl⟩ := h
  exact List.cons_ne_nil _ _

theorem separate_cons {first : List Layout} (h : ∀ group ∈ first :: groups, group ≠ []) :
    separate (first :: groups) = first ++ groups.flatMap (blank :: ·) := by
  have kept : (first :: groups).filter (!·.isEmpty) = first :: groups :=
    List.filter_eq_self.mpr fun group hgroup => by simpa using h group hgroup
  rw [separate, kept, intercalate_singleton_cons]

/-- Behind a first group the gaps are the blank lines that separate the groups. -/
theorem IsGroup.text_run {first : List Layout} (start : IsGroup first)
    (h : ∀ group ∈ groups, IsGroup group) (w : Writer) :
    (w.run (allSteps first ++ gappedSteps groups)).text =
      w.text ++ printed (allLines w.depth (separate (first :: groups))) := by
  have all := List.forall_mem_cons.mpr ⟨start, h⟩
  rw [Writer.run_append, start.run_allSteps, run_gappedSteps h rfl,
    separate_cons fun group hgroup => (all group hgroup).ne_nil, allLines_append, printed_append,
    ← String.append_assoc]

/-- At the start of a block the gaps are the blank lines that separate what there is: in front of
the first group that follows nothing, the gap is left out. -/
theorem text_run_separate {first : List Layout} (start : w.atStart = true)
    (some : first = [] ∨ IsGroup first) (h : ∀ group ∈ groups, IsGroup group) :
    (w.run (allSteps first ++ gappedSteps groups)).text =
      w.text ++ printed (allLines w.depth (separate (first :: groups))) := by
  obtain rfl | group := some
  · cases groups with
    | nil => simp [gappedSteps, separate, allSteps, allLines]
    | cons next groups =>
      obtain ⟨group, others⟩ := List.forall_mem_cons.mp h
      have leftOut : w.step .gap = w := by simp [Writer.step, start]
      have same : separate ([] :: next :: groups) = separate (next :: groups) := rfl
      rw [allSteps, List.nil_append, gappedSteps, List.flatMap_cons, List.cons_append,
        Writer.run_cons, leftOut, ← gappedSteps, group.text_run others, same]
  · exact group.text_run h w

end Gaps

end Layout

/-! ## Classes -/

open Layout (IsGroup allSteps gappedSteps line)

namespace GeneratedMember

theorem isGroup_block {head suffix : String} {body : List Layout}
    (h : ∀ piece ∈ body, piece.Meets (· ≠ .gap)) : IsGroup [line head, .block body suffix] :=
  ⟨by simpa [↓List.forall_mem_cons] using h, _, _, rfl⟩

theorem isVisible_addToBody (tracked : TrackedMember) (collection : Collection) :
    ∀ piece ∈ addToBody tracked collection, piece.IsVisible := by
  cases collection <;> simp +decide [addToBody, Collection.isMap]

theorem isVisible_callLayout (entityType : String) (arguments : List String) (terminator : String) :
    ∀ piece ∈ callLayout entityType arguments terminator, piece.IsVisible := by
  unfold callLayout
  split <;> simp +decide [or_imp, forall_and]

theorem isVisible_unreachableLayout (config : Configuration) (tracked : TrackedMember) :
    ∀ piece ∈ unreachableLayout config tracked, piece.IsVisible := by
  unfold unreachableLayout
  split <;> simp +decide

theorem isVisible_buildBody (entityType : String) (config : Configuration) (method : BuildMethod) :
    ∀ piece ∈ buildBody entityType config method, piece.IsVisible := by
  unfold buildBody
  simp only [List.forall_mem_append, List.forall_mem_flatMap]
  refine ⟨⟨?_, fun _ _ => isVisible_unreachableLayout _ _⟩, by simp +decide⟩
  split
  · exact isVisible_callLayout _ _ _
  · exact List.forall_mem_append.mpr ⟨isVisible_callLayout _ _ _, by simp +decide⟩

/-- A member is written without gaps. -/
theorem isGroup_layout (c : GeneratedClass) (member : GeneratedMember) :
    IsGroup (member.layout c) := by
  cases member with
  | constructor initial setup =>
    exact isGroup_block (by simp [↓List.forall_mem_append, ↓List.forall_mem_map])
  | setter tracked =>
    rw [layout, setterLayout]
    split <;> exact isGroup_block (by simp)
  | addTo tracked collection =>
    exact isGroup_block fun piece hpiece => (isVisible_addToBody _ _ piece hpiece).ungapped
  | build method =>
    exact isGroup_block fun piece hpiece => (isVisible_buildBody _ _ _ piece hpiece).ungapped
  | creator => exact ⟨by simp [layout], _, _, rfl⟩
  | _ => exact isGroup_block (by simp)

end GeneratedMember

namespace GeneratedClass

open Writer (Step Nested)

/-- The lines in front of the declarations of a file: directives and imports. -/
def heading (c : GeneratedClass) : List String :=
  ["// <auto-generated/>", "#pragma warning disable CS1591"] ++
    (match c.config.builder.nullableStrategy with
      | .enabled => ["#nullable enable"]
      | .disabled => ["#nullable disable"]
      | .default => []) ++
    c.imports.map (fun name => "using " ++ name ++ ";")

/-- The directive behind the declarations of a file, if there is one. -/
def ending (c : GeneratedClass) : List String :=
  if c.config.builder.nullableStrategy = .default then [] else ["#nullable restore"]

/-- The class in its namespace. -/
def declaration (c : GeneratedClass) : List Layout :=
  if c.qualifier.isEmpty then c.classLayout
  else [line ("namespace " ++ c.qualifier), .block c.classLayout ""]

theorem layout_eq (c : GeneratedClass) :
    c.layout = c.heading.map line ++ [.blank] ++ c.declaration ++ c.ending.map line := by
  unfold layout heading ending declaration
  cases c.config.builder.nullableStrategy <;> simp

/-- What a writer is told for what is in the class: all members but the fields have a gap in front of
them. -/
def bodySteps (c : GeneratedClass) : List Step :=
  allSteps (c.fields.map (GeneratedField.layout c.config)) ++
    gappedSteps (c.members.map (GeneratedMember.layout c))

/-- What a writer is told for the class. Constraints stand deeper than its name. -/
def classSteps (c : GeneratedClass) : List Step :=
  [.line ("partial class " ++ c.builderType), .indent] ++ c.constraints.map .line ++
    .outdent :: .openBlock :: (c.bodySteps ++ [.closeBlock ""])

/-- What a writer is told for the class in its namespace. -/
def declarationSteps (c : GeneratedClass) : List Step :=
  if c.qualifier.isEmpty then c.classSteps
  else .line ("namespace " ++ c.qualifier) :: .openBlock :: (c.classSteps ++ [.closeBlock ""])

/-- What a writer is told for the file. -/
def steps (c : GeneratedClass) : List Step :=
  c.heading.map .line ++ [.line ""] ++ c.declarationSteps ++ c.ending.map .line

theorem nested_bodySteps (c : GeneratedClass) : Nested c.bodySteps :=
  (Layout.nested_allSteps _).append (.flatMap fun group _ => .gap (Layout.nested_allSteps group))

theorem nested_classSteps (c : GeneratedClass) : Nested c.classSteps := by
  have body := Nested.block "" c.nested_bodySteps .nil
  simpa [classSteps] using Nested.line _ (.indented (.lines c.constraints) body)

theorem nested_declarationSteps (c : GeneratedClass) : Nested c.declarationSteps := by
  unfold declarationSteps
  split
  · exact c.nested_classSteps
  · exact .line _ (.block "" c.nested_classSteps .nil)

/-- Whatever is generated, every block of a file is closed, in the opposite order. -/
theorem nested_steps (c : GeneratedClass) : Nested c.steps :=
  (((Nested.lines _).append (.line "" .nil)).append c.nested_declarationSteps).append (.lines _)

theorem isGroup_fields (c : GeneratedClass) :
    c.fields.map (GeneratedField.layout c.config) = [] ∨
      IsGroup (c.fields.map (GeneratedField.layout c.config)) := by
  cases fields : c.fields with
  | nil => exact .inl rfl
  | cons field fields =>
    have shown (field : GeneratedField) : ∃ text, field.layout c.config = line text := by
      cases field <;> exact ⟨_, rfl⟩
    obtain ⟨text, first⟩ := shown field
    refine .inr ⟨List.forall_mem_map.mpr fun other _ => ?_, text, _, by rw [List.map_cons, first]⟩
    obtain ⟨text, other⟩ := shown other
    simp [other]

theorem text_run_bodySteps (c : GeneratedClass) {w : Writer} (start : w.atStart = true) :
    (w.run c.bodySteps).text =
      w.text ++ Layout.printed (Layout.allLines w.depth
        (Layout.separate
          (c.fields.map (GeneratedField.layout c.config) ::
            c.members.map (GeneratedMember.layout c)))) :=
  Layout.text_run_separate start c.isGroup_fields
    (List.forall_mem_map.mpr fun _ _ => GeneratedMember.isGroup_layout c _)

theorem text_run_classSteps (c : GeneratedClass) (w : Writer) :
    (w.run c.classSteps).text =
      w.text ++ Layout.printed (Layout.allLines w.depth c.classLayout) := by
  simp [classSteps, classLayout, Layout.run_lines, c.nested_bodySteps.depth_run,
    c.text_run_bodySteps, Writer.step, Writer.writeLine, Layout.allLines, Layout.lines,
    String.append_assoc]

theorem text_run_declarationSteps (c : GeneratedClass) (w : Writer) :
    (w.run c.declarationSteps).text =
      w.text ++ Layout.printed (Layout.allLines w.depth c.declaration) := by
  unfold declarationSteps declaration
  split
  · exact c.text_run_classSteps w
  · simp [c.nested_classSteps.depth_run, c.text_run_classSteps, Writer.step, Writer.writeLine,
      Layout.allLines, Layout.lines, String.append_assoc]

/-- A writer that does what it is told for a class writes its text. -/
theorem text_run_steps (c : GeneratedClass) : (Writer.run {} c.steps).text = c.sourceText := by
  have margin : Layout.indentation 0 = "" := rfl
  simp [sourceText, Layout.render_eq_printed, layout_eq, steps, Layout.run_lines,
    Layout.allLines_append, c.text_run_declarationSteps, c.nested_declarationSteps.depth_run,
    Writer.step, Writer.writeLine, Layout.allLines, Layout.lines, margin, String.append_assoc]

end GeneratedClass

end FluentGen
