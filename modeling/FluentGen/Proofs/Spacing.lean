import FluentGen.Proofs.PrintedLines
import FluentGen.Proofs.Writing
import Mathlib.Data.List.Chain
/-!
# Blank lines in a generated class

Blank lines stand between the members of a class, and in front of its declaration: one at a time, and
never next to the brace that opens or closes what they are in.

## Main definitions
* `Text.MayPrecede`: whether a line may stand in front of another one.
* `Text.IsSpaced`: lines of which each may precede the next, with others around them.
* `Text.IsParagraph`: lines that blank lines may be put around.

## Main statements
* `Text.IsParagraph.isSpaced_append`: paragraphs with a blank line between each two.
* `GeneratedMember.isParagraph_layout`: a member is a paragraph.
* `GeneratedClass.IsVisible.isChain_layout`: of the lines of a file each may precede the next.
-/
namespace FluentGen

namespace Text

/-- The first character that is no blank. -/
def firstVisible? (text : String) : Option Char :=
  text.toList.find? (!isBlank ·)

/-- The last character that is no blank. -/
def lastVisible? (text : String) : Option Char :=
  text.toList.reverse.find? (!isBlank ·)

/-- Whether a line may stand in front of another one: of two lines one is not blank, and a blank line
is not next to a brace that opens or closes what it is in. -/
structure MayPrecede (line next : String) : Prop where
  single : isBlankText line = true → isBlankText next = false
  notClosing : isBlankText line = true → firstVisible? next ≠ some '}'
  notOpened : lastVisible? line = some '{' → isBlankText next = false

@[simp]
theorem firstVisible?_append (a b : String) :
    firstVisible? (a ++ b) = (firstVisible? a).or (firstVisible? b) := by
  simp [firstVisible?]

@[simp]
theorem lastVisible?_append (a b : String) :
    lastVisible? (a ++ b) = (lastVisible? b).or (lastVisible? a) := by
  simp [lastVisible?]

theorem isBlankText_of_firstVisible? {text : String} {c : Char} (h : firstVisible? text = some c) :
    isBlankText text = false := by
  simpa [isBlankText] using ⟨c, List.mem_of_find?_eq_some h, by simpa using List.find?_some h⟩

theorem mayPrecede_of_visible {line next : String} (h : isBlankText line = false)
    (h' : isBlankText next = false) : MayPrecede line next :=
  ⟨fun _ => h', by simp [h], fun _ => h'⟩

/-- Lines of which each may precede the next, also between lines that are not blank. -/
structure IsSpaced (lines : List String) : Prop where
  chain : lines.IsChain MayPrecede
  head : ∀ line ∈ lines.head?, isBlankText line = false
  last : ∀ line ∈ lines.getLast?, isBlankText line = false

namespace IsSpaced

variable {lines others : List String}

theorem append (h : IsSpaced lines) (h' : IsSpaced others) : IsSpaced (lines ++ others) where
  chain := h.chain.append h'.chain fun line hline next hnext =>
    mayPrecede_of_visible (h.last line hline) (h'.head next hnext)
  head line hline := by
    rw [List.head?_append, Option.mem_def, Option.or_eq_some_iff] at hline
    exact hline.elim (h.head line) fun hline => h'.head line hline.2
  last line hline := by
    rw [List.getLast?_append, Option.mem_def, Option.or_eq_some_iff] at hline
    exact hline.elim (h'.last line) fun hline => h.last line hline.2

theorem of_visible (h : ∀ line ∈ lines, isBlankText line = false) : IsSpaced lines := by
  induction lines with
  | nil => exact ⟨.nil, nofun, nofun⟩
  | cons line lines ih =>
    obtain ⟨first, others⟩ := List.forall_mem_cons.mp h
    have single : IsSpaced [line] := ⟨.singleton _, by simpa using first, by simpa using first⟩
    exact single.append (ih others)

/-- Lines that a blank line follows, or the end of the text. -/
theorem isChain_append_blank (h : IsSpaced lines)
    (notOpened : ∀ line ∈ lines.getLast?, lastVisible? line ≠ some '{') :
    (lines ++ [""]).IsChain MayPrecede := by
  refine h.chain.append (.singleton _) fun line hline blank hblank => ?_
  obtain rfl : "" = blank := by simpa using hblank
  have shown := h.last line hline
  exact ⟨by simp [shown], by simp [shown], fun opened => absurd opened (notOpened line hline)⟩

/-- A blank line may stand between lines, unless a brace opens or closes there. -/
theorem gap {next : String} (h : IsSpaced lines) (nonempty : lines ≠ [])
    (h' : IsSpaced (next :: others))
    (notOpened : ∀ line ∈ lines.getLast?, lastVisible? line ≠ some '{')
    (notClosing : firstVisible? next ≠ some '}') : IsSpaced (lines ++ "" :: next :: others) where
  chain := by
    have after : MayPrecede "" next := ⟨fun _ => h'.head next rfl, fun _ => notClosing, nofun⟩
    have joined := (h.isChain_append_blank notOpened).append_overlap
      (.cons_cons after h'.chain) (List.cons_ne_nil _ _)
    rwa [List.append_assoc] at joined
  head line hline := h.head line (by rwa [List.head?_append_of_ne_nil _ nonempty] at hline)
  last line hline := h'.last line (by simpa using hline)

end IsSpaced

/-- Lines with none blank, of which the first closes nothing and the last opens nothing. -/
structure IsParagraph (lines : List String) : Prop where
  visible : ∀ line ∈ lines, isBlankText line = false
  head : ∃ first others, lines = first :: others ∧ firstVisible? first ≠ some '}'
  last : ∀ line ∈ lines.getLast?, lastVisible? line ≠ some '{'

theorem IsParagraph.append {lines others : List String} (h : IsParagraph lines)
    (h' : IsParagraph others) : IsParagraph (lines ++ others) where
  visible := List.forall_mem_append.mpr ⟨h.visible, h'.visible⟩
  head := by
    obtain ⟨first, later, rfl, notClosing⟩ := h.head
    exact ⟨first, later ++ others, rfl, notClosing⟩
  last line hline := by
    rw [List.getLast?_append, Option.mem_def, Option.or_eq_some_iff] at hline
    exact hline.elim (h'.last line) fun hline => h.last line hline.2

/-- Paragraphs with a blank line between each two. -/
theorem IsParagraph.isSpaced_append {lines : List String} {paragraphs : List (List String)}
    (h : IsParagraph lines) (h' : ∀ paragraph ∈ paragraphs, IsParagraph paragraph) :
    IsSpaced (lines ++ paragraphs.flatMap ("" :: ·)) := by
  induction paragraphs generalizing lines with
  | nil => simpa using IsSpaced.of_visible h.visible
  | cons paragraph paragraphs ih =>
    obtain ⟨next, later⟩ := List.forall_mem_cons.mp h'
    have rest := ih next later
    obtain ⟨first, others, rfl, notClosing⟩ := next.head
    obtain ⟨_, _, rfl, -⟩ := h.head
    exact (IsSpaced.of_visible h.visible).gap (List.cons_ne_nil _ _) rest h.last notClosing

end Text

open Text (isBlankText firstVisible? lastVisible? IsSpaced IsParagraph)

namespace Layout

section Lines

variable {P : String → Prop}

mutual
theorem forall_mem_lines (indent : ∀ depth text, P text → P (indentation depth ++ text))
    {piece : Layout} (h : piece.Meets (·.Writes P)) (depth : Nat) :
    ∀ written ∈ piece.lines depth, P written := by
  cases piece with
  | line text => exact List.forall_mem_singleton.mpr (indent depth text (meets_line.mp h))
  | blank => exact List.forall_mem_singleton.mpr (meets_blank.mp h)
  | block body suffix =>
    obtain ⟨opened, inside, closed⟩ := meets_block.mp h
    refine List.forall_mem_cons.mpr ⟨indent depth _ opened, List.forall_mem_append.mpr
      ⟨forall_mem_allLines indent inside (depth + 1), List.forall_mem_singleton.mpr ?_⟩⟩
    rw [String.append_assoc]
    exact indent depth _ closed
  | indented body => exact forall_mem_allLines indent (meets_indented.mp h).2.1 (depth + 1)
/-- What is written line by line is written at every depth. -/
theorem forall_mem_allLines (indent : ∀ depth text, P text → P (indentation depth ++ text))
    {pieces : List Layout} (h : ∀ piece ∈ pieces, piece.Meets (·.Writes P)) (depth : Nat) :
    ∀ written ∈ allLines depth pieces, P written := by
  cases pieces with
  | nil => exact nofun
  | cons piece pieces =>
    obtain ⟨first, others⟩ := List.forall_mem_cons.mp h
    exact List.forall_mem_append.mpr
      ⟨forall_mem_lines indent first depth, forall_mem_allLines indent others depth⟩
end

end Lines

@[simp]
theorem isBlankText_indentation (depth : Nat) : isBlankText (indentation depth) = true := by
  have blank : Text.isBlank ' ' = true := by decide
  simp [isBlankText, indentation, blank]

@[simp]
theorem firstVisible?_indentation (depth : Nat) : firstVisible? (indentation depth) = none := by
  have blank : Text.isBlank ' ' = true := by decide
  simp [firstVisible?, indentation, blank]

/-- The lines of pieces without blank lines. -/
theorem visible_of_mem_allLines {pieces : List Layout} (h : ∀ piece ∈ pieces, piece.IsVisible)
    (depth : Nat) : ∀ written ∈ allLines depth pieces, isBlankText written = false :=
  forall_mem_allLines (fun _ _ shown => by simp [shown]) h depth

theorem isSpaced_separate {groups : List (List Layout)} {depth : Nat}
    (h : ∀ group ∈ groups, IsParagraph (allLines depth group)) :
    IsSpaced (allLines depth (separate groups)) := by
  cases groups with
  | nil => exact .of_visible nofun
  | cons first groups =>
    have nonempty : ∀ group ∈ first :: groups, group ≠ [] := by
      rintro group hgroup rfl
      obtain ⟨_, _, none, -⟩ := (h [] hgroup).head
      cases none
    obtain ⟨start, others⟩ := List.forall_mem_cons.mp h
    have written := start.isSpaced_append (List.forall_mem_map.mpr others)
    rw [separate_cons nonempty, allLines_append, allLines_eq_flatMap depth (groups.flatMap _),
      List.flatMap_assoc]
    simpa [List.flatMap_map, lines, allLines_eq_flatMap] using written

end Layout

open Layout (line)

namespace GeneratedMember

/-- A declaration with a body in braces. -/
theorem isParagraph_block {head : String} {body : List Layout} (h : firstVisible? head = some 'p')
    (inside : ∀ piece ∈ body, piece.IsVisible) (depth : Nat) :
    IsParagraph (Layout.allLines depth [line head, .block body ""]) where
  visible := Layout.visible_of_mem_allLines
    (by simpa [↓List.forall_mem_cons, Text.isBlankText_of_firstVisible? h] using inside) depth
  head := ⟨Layout.indentation depth ++ head, _, rfl, by simp [h]⟩
  last written hwritten := by
    have closing : written = Layout.indentation depth ++ "\x7d" := by
      simpa [Layout.allLines, Layout.lines, List.getLast?_cons, eq_comm] using hwritten
    have brace : lastVisible? "\x7d" = some '}' := by decide
    simp [closing, brace]

/-- A member is a paragraph, if the statement that sets the fixture up is not blank. -/
theorem isParagraph_layout (c : GeneratedClass) {member : GeneratedMember}
    (h : ∀ initial setup, member = .constructor initial (some setup) → isBlankText setup = false)
    (depth : Nat) : IsParagraph (Layout.allLines depth (member.layout c)) := by
  cases member with
  | constructor initial setup =>
    refine isParagraph_block (by simp +decide) ?_ depth
    have shown : ∀ text ∈ setup, isBlankText text = false := by
      rintro text rfl
      exact h initial text rfl
    simpa +decide [↓List.forall_mem_append, ↓List.forall_mem_map] using shown
  | setter tracked =>
    rw [layout, setterLayout]
    split <;> exact isParagraph_block (by simp +decide) (by simp +decide) depth
  | addTo tracked collection => exact isParagraph_block (by simp +decide) (isVisible_addToBody _ _) depth
  | build method => exact isParagraph_block (by simp +decide) (isVisible_buildBody _ _ _) depth
  | creator =>
    refine ⟨by simp +decide [layout, Layout.allLines, Layout.lines], ⟨_, _, rfl, by simp +decide⟩, ?_⟩
    simp +decide [layout, Layout.allLines, Layout.lines]
  | setUnreachable =>
    -- The flags are a long text, of which nothing has to be known.
    rw [layout]
    delta setUnreachableLayout
    extract_lets flags
    clear_value flags
    exact isParagraph_block (by decide) (by simp +decide) depth
  | _ => exact isParagraph_block (by simp +decide) (by simp +decide) depth

end GeneratedMember

namespace GeneratedField

/-- A field takes one line, which no brace ends. -/
theorem isParagraph_layout (config : Configuration) (field : GeneratedField) (depth : Nat) :
    IsParagraph ((field.layout config).lines depth) := by
  obtain ⟨text, one, first, last⟩ : ∃ text, field.layout config = line text ∧
      firstVisible? text = some 'p' ∧ lastVisible? text = some ';' := by
    cases field <;> exact ⟨_, rfl, by simp +decide, by simp +decide⟩
  rw [one]
  exact ⟨by simp [Layout.lines, Text.isBlankText_of_firstVisible? first],
    ⟨_, _, rfl, by simp [first]⟩, by simp [Layout.lines, last]⟩

/-- Fields are a paragraph, if there are any. -/
theorem isParagraph_layouts (config : Configuration) {fields : List GeneratedField}
    (nonempty : fields ≠ []) (depth : Nat) :
    IsParagraph (Layout.allLines depth (fields.map (layout config))) := by
  induction fields with
  | nil => exact absurd rfl nonempty
  | cons field fields ih =>
    by_cases alone : fields = []
    · simpa [alone, Layout.allLines] using field.isParagraph_layout config depth
    · exact (field.isParagraph_layout config depth).append (ih alone)

end GeneratedField

namespace GeneratedClass

/-- Whether no text that a class takes over as a line is blank. -/
structure IsVisible (c : GeneratedClass) : Prop where
  constraints : ∀ clause ∈ c.constraints, isBlankText clause = false
  setup : ∀ initial setup, .constructor initial (some setup) ∈ c.members → isBlankText setup = false

variable {c : GeneratedClass}

theorem IsVisible.isSpaced_body (h : c.IsVisible) (depth : Nat) :
    IsSpaced (Layout.allLines depth
      (Layout.separate
        (c.fields.map (GeneratedField.layout c.config) ::
          c.members.map (GeneratedMember.layout c)))) := by
  have members : ∀ group ∈ c.members.map (GeneratedMember.layout c),
      IsParagraph (Layout.allLines depth group) :=
    List.forall_mem_map.mpr fun member hmember =>
      GeneratedMember.isParagraph_layout c
        (fun initial setup same => h.setup initial setup (same ▸ hmember)) depth
  by_cases none : c.fields = []
  · have same : Layout.separate ([] :: c.members.map (GeneratedMember.layout c)) =
        Layout.separate (c.members.map (GeneratedMember.layout c)) := rfl
    rw [none, List.map_nil, same]
    exact Layout.isSpaced_separate members
  · exact Layout.isSpaced_separate
      (List.forall_mem_cons.mpr ⟨GeneratedField.isParagraph_layouts c.config none depth, members⟩)

/-- A block of lines that stand by themselves. -/
theorem isSpaced_block {heading : List String} {body : List Layout} {depth : Nat}
    (h : ∀ written ∈ heading, isBlankText written = false)
    (inside : IsSpaced (Layout.allLines (depth + 1) body)) :
    IsSpaced (heading ++ (Layout.block body "").lines depth) := by
  have opening : isBlankText "\x7b" = false := by decide
  have closing : isBlankText "\x7d" = false := by decide
  have opened : IsSpaced [Layout.indentation depth ++ "\x7b"] := .of_visible (by simp [opening])
  have closed : IsSpaced [Layout.indentation depth ++ "\x7d" ++ ""] :=
    .of_visible (by simp [closing])
  simpa [Layout.lines] using (((IsSpaced.of_visible h).append opened).append inside).append closed

theorem IsVisible.isSpaced_classLayout (h : c.IsVisible) (depth : Nat) :
    IsSpaced (Layout.allLines depth c.classLayout) := by
  have heading : ∀ written ∈ Layout.allLines depth
      [line ("partial class " ++ c.builderType), .indented (c.constraints.map line)],
      isBlankText written = false :=
    Layout.visible_of_mem_allLines
      (by simpa +decide [↓List.forall_mem_cons, ↓List.forall_mem_map] using h.constraints) depth
  simpa [classLayout, Layout.allLines] using isSpaced_block heading (h.isSpaced_body (depth + 1))

theorem IsVisible.isSpaced_declaration (h : c.IsVisible) :
    IsSpaced (Layout.allLines 0 c.declaration) := by
  unfold declaration
  split
  · exact h.isSpaced_classLayout 0
  · have heading : ∀ written ∈ Layout.allLines 0 [line ("namespace " ++ c.qualifier)],
        isBlankText written = false :=
      Layout.visible_of_mem_allLines (by simp +decide) 0
    simpa [Layout.allLines] using isSpaced_block heading (h.isSpaced_classLayout 1)

/-- A declaration begins with a word and ends with a brace. -/
theorem exists_lines_declaration (c : GeneratedClass) : ∃ head inner,
    Layout.allLines 0 c.declaration = head :: (inner ++ ["\x7d"]) ∧
      firstVisible? head ≠ some '}' := by
  obtain ⟨head, others, body, same, notClosing⟩ : ∃ head others body,
      c.declaration = line head :: (others ++ [.block body ""]) ∧ firstVisible? head ≠ some '}' := by
    unfold declaration
    split
    · exact ⟨_, [_], _, rfl, by simp +decide⟩
    · exact ⟨_, [], _, rfl, by simp +decide⟩
  have margin : Layout.indentation 0 = "" := rfl
  refine ⟨head, Layout.allLines 0 others ++ "\x7b" :: Layout.allLines 1 body, ?_, notClosing⟩
  simp [same, Layout.allLines, Layout.allLines_append, Layout.lines, margin]

theorem mem_heading (c : GeneratedClass) {text : String} (h : text ∈ c.heading) :
    isBlankText text = false ∧ lastVisible? text ≠ some '{' := by
  simp only [heading, List.mem_append, List.mem_map, List.mem_cons, List.not_mem_nil, or_false] at h
  obtain ((rfl | rfl) | h) | ⟨name, -, rfl⟩ := h
  · decide
  · decide
  · cases strategy : c.config.builder.nullableStrategy <;> simp [strategy] at h <;> subst h <;> decide
  · simp +decide

theorem mem_ending (c : GeneratedClass) {text : String} (h : text ∈ c.ending) :
    isBlankText text = false ∧ lastVisible? text ≠ some '{' := by
  unfold ending at h
  split at h
  · cases h
  · obtain rfl := List.mem_singleton.mp h
    decide

/-- The lines of a file, and the end of the file behind them. -/
theorem IsVisible.isChain_layout (h : c.IsVisible) :
    (Layout.allLines 0 c.layout ++ [""]).IsChain Text.MayPrecede := by
  have ending : IsSpaced c.ending := .of_visible fun text htext => (c.mem_ending htext).1
  have heading : IsSpaced c.heading := .of_visible fun text htext => (c.mem_heading htext).1
  have rest := h.isSpaced_declaration.append ending
  obtain ⟨head, inner, same, notClosing⟩ := c.exists_lines_declaration
  rw [same, List.cons_append] at rest
  have all := heading.gap (List.cons_ne_nil _ _) rest
    (fun text last => (c.mem_heading (List.mem_of_getLast? last)).2) notClosing
  have written : Layout.allLines 0 c.layout =
      c.heading ++ "" :: head :: (inner ++ ["\x7d"] ++ c.ending) := by
    simp [layout_eq, Layout.allLines_append, Layout.allLines_zero_lines, same, Layout.allLines,
      Layout.lines]
  rw [written]
  refine all.isChain_append_blank fun text last => ?_
  have brace : lastVisible? "\x7d" = some '}' := by decide
  have closed : c.ending.getLast? = some text ∨ text = "\x7d" := by
    have same : c.ending.getLast?.getD "\x7d" = text := by
      simpa [List.getLast?_append, List.getLast?_cons] using last
    cases ended : c.ending.getLast? <;> simp_all
  obtain ended | rfl := closed
  · exact (c.mem_ending (List.mem_of_getLast? ended)).2
  · simp [brace]

end GeneratedClass

/-- A constraint clause begins with a word. -/
theorem Entity.visible_of_mem_constraintClauses {entity : Entity} :
    ∀ clause ∈ entity.constraintClauses, isBlankText clause = false := by
  intro clause h
  obtain ⟨parameter, -, h⟩ := List.mem_filterMap.mp h
  unfold TypeParameter.constraintClause? at h
  have clause := (Option.ite_none_left_eq_some.mp h).2
  cases clause
  simp +decide

/-- The statement that sets the fixture up is made from the option, and ends like a statement. -/
theorem fixtureSetup?_eq_some {config : Configuration} {setup : String}
    (h : fixtureSetup? config = some setup) : ∃ text ∈ config.fixture.setup,
      setup = Text.expand (Text.trim text) [names.fixtureField] ∧
          (setup.toList.getLast? = some ';' ∨ setup.toList.getLast? = some '}') ∨
        setup = Text.expand (Text.trim text) [names.fixtureField] ++ ";" := by
  unfold fixtureSetup? at h
  obtain ⟨snippet, trimmed, h⟩ := Option.bind_eq_some_iff.mp (Option.ite_none_left_eq_some.mp h).2
  obtain ⟨text, given, rfl⟩ := Option.map_eq_some_iff.mp trimmed
  have statement := (Option.ite_none_left_eq_some.mp h).2
  dsimp only at statement
  refine ⟨text, given, ?_⟩
  split at statement
  next ended =>
    cases statement
    exact .inl ⟨rfl, .inl ended⟩
  next ended =>
    cases statement
    exact .inl ⟨rfl, .inr ended⟩
  next =>
    cases statement
    exact .inr rfl

theorem visible_of_fixtureSetup? {config : Configuration} {setup : String}
    (h : fixtureSetup? config = some setup) : isBlankText setup = false := by
  have shown {c : Char} (last : setup.toList.getLast? = some c) (visible : Text.isBlank c = false) :
      isBlankText setup = false := by
    simpa [isBlankText] using ⟨c, List.mem_of_getLast? last, visible⟩
  obtain ⟨text, -, ⟨-, last | last⟩ | rfl⟩ := fixtureSetup?_eq_some h
  · exact shown last (by decide)
  · exact shown last (by decide)
  · simp +decide

theorem GeneratedClass.isVisible_of (model : Compilation) (entity : Entity) (config : Configuration)
    (builder : NamedType) : (of model entity config builder).IsVisible where
  constraints := entity.visible_of_mem_constraintClauses
  setup initial setup h := by
    generalize same : GeneratedMember.constructor initial (some setup) = member at h
    cases mem_members_of_iff.mp h with
    | constructor _ =>
      injection same with _ same
      exact visible_of_fixtureSetup? same.symm
    | _ => cases same

end FluentGen
