import FluentGen.Proofs.Writing
/-!
# Declarations in the text of a class

The text of a class consists of the lines of its declarations, in order, between the lines that open
the class and those that close it. So what is known of the declarations is known of the text, and the
other way round.

## Main definitions
* `GeneratedClass.paragraphs`: the lines of the fields, and of every other member.
* `GeneratedClass.IsWrittenIn`: whether a text consists of the declarations of a class.
* `Text.HasLines`: whether lines stand together in a text.
* `Text.IsMethod`: whether lines are a method, by its first line and its last statement.

## Main statements
* `GeneratedClass.isWrittenIn_sourceText`: the text of a class consists of its declarations.
* `GeneratedClass.IsWrittenIn.hasLines_member`: every member stands in the text.
* `GeneratedMember.lastStatement?_of_isMethod`: which members have a last statement, and which one.
-/
namespace FluentGen

open Layout (allLines indentation printed)

namespace Text

/-- Whether lines stand in a text, one directly after the other. -/
def HasLines (text : String) (lines : List String) : Prop :=
  ∃ all, text = printed all ∧ lines <:+: all

/-- Whether lines declare a method, or a constructor, that starts with the given line and ends with the
given statement. -/
def IsMethod (depth : Nat) (head last : String) (lines : List String) : Prop :=
  ∃ statements,
    lines = [indentation depth ++ head, indentation depth ++ "\x7b"] ++ statements ++
      [indentation (depth + 1) ++ last, indentation depth ++ "\x7d"]

theorem IsMethod.getLast?_dropLast {depth : Nat} {head last : String} {lines : List String}
    (h : IsMethod depth head last lines) :
    lines.dropLast.getLast? = some (indentation (depth + 1) ++ last) := by
  obtain ⟨statements, rfl⟩ := h
  rw [List.append_cons, List.dropLast_concat, List.getLast?_concat]

end Text

/-! ## Separate groups of lines -/

theorem infix_intercalate {α : Type} (separator : α) {part : List α} {parts : List (List α)}
    (h : part ∈ parts) : part <:+: [separator].intercalate parts := by
  cases parts with
  | nil => cases h
  | cons first others =>
    rw [Layout.intercalate_singleton_cons]
    obtain rfl | h := List.mem_cons.mp h
    · exact (List.prefix_append _ _).isInfix
    · have stands : separator :: part <:+: others.flatMap (separator :: ·) :=
        List.infix_of_mem_flatten (List.mem_map_of_mem h)
      exact ((List.suffix_cons separator part).isInfix.trans stands).trans
        (List.suffix_append _ _).isInfix

namespace Layout

theorem allLines_separate {groups : List (List Layout)} (h : ∀ group ∈ groups, group ≠ [])
    (depth : Nat) :
    allLines depth (separate groups) = [""].intercalate (groups.map (allLines depth)) := by
  cases groups with
  | nil => rfl
  | cons first others =>
    rw [separate_cons h, List.map_cons, intercalate_singleton_cons, allLines_append,
      allLines_eq_flatMap depth (others.flatMap _), List.flatMap_assoc, List.flatMap_map]
    simp [lines, allLines_eq_flatMap]

end Layout

/-! ## The text of a class -/

namespace GeneratedClass

/-- How deep the declarations stand: in the class, which may stand in a namespace. -/
def depth (c : GeneratedClass) : Nat :=
  if c.qualifier.isEmpty then 1 else 2

/-- The lines up to the brace that opens the class. -/
def opening (c : GeneratedClass) : List String :=
  c.heading ++ [""] ++
    (if c.qualifier.isEmpty then [] else ["namespace " ++ c.qualifier, "\x7b"]) ++
    [indentation (c.depth - 1) ++ "partial class " ++ c.builderType] ++
    c.constraints.map (indentation c.depth ++ ·) ++ [indentation (c.depth - 1) ++ "\x7b"]

/-- The lines from the brace that closes the class. -/
def closing (c : GeneratedClass) : List String :=
  [indentation (c.depth - 1) ++ "\x7d"] ++ (if c.qualifier.isEmpty then [] else ["\x7d"]) ++ c.ending

/-- The lines of the fields. -/
def fieldLines (c : GeneratedClass) : List String :=
  allLines c.depth (c.fields.map (GeneratedField.layout c.config))

/-- The lines of a member. -/
def memberLines (c : GeneratedClass) (member : GeneratedMember) : List String :=
  allLines c.depth (member.layout c)

/-- The declarations, as groups of lines: the fields if there are any, and every other member. -/
def paragraphs (c : GeneratedClass) : List (List String) :=
  (if c.fields = [] then [] else [c.fieldLines]) ++ c.members.map c.memberLines

/-- Whether a text consists of the declarations of a class, with a blank line between each two, inside
the braces of the class. -/
def IsWrittenIn (c : GeneratedClass) (text : String) : Prop :=
  text = printed (c.opening ++ [""].intercalate c.paragraphs ++ c.closing)

variable {c : GeneratedClass} {text : String}

theorem allLines_classBody (c : GeneratedClass) :
    allLines c.depth (Layout.separate (c.fields.map (GeneratedField.layout c.config) ::
      c.members.map (GeneratedMember.layout c))) = [""].intercalate c.paragraphs := by
  have members : ∀ group ∈ c.members.map (GeneratedMember.layout c), group ≠ [] :=
    List.forall_mem_map.mpr fun member _ => (member.isGroup_layout c).ne_nil
  by_cases none : c.fields = []
  · have same : Layout.separate ([] :: c.members.map (GeneratedMember.layout c)) =
        Layout.separate (c.members.map (GeneratedMember.layout c)) := rfl
    rw [none, List.map_nil, same, Layout.allLines_separate members, List.map_map, paragraphs,
      if_pos none]
    rfl
  · have fields : c.fields.map (GeneratedField.layout c.config) ≠ [] := by simpa using none
    rw [Layout.allLines_separate (List.forall_mem_cons.mpr ⟨fields, members⟩), List.map_cons,
      List.map_map, paragraphs, if_neg none]
    rfl

/-- The text of a class consists of its declarations. -/
theorem isWrittenIn_sourceText (c : GeneratedClass) : c.IsWrittenIn c.sourceText := by
  have margin : indentation 0 = "" := rfl
  have body := c.allLines_classBody
  rw [IsWrittenIn, sourceText, Layout.render_eq_printed, layout_eq, opening, closing]
  congr 1
  simp only [Layout.allLines_append, Layout.allLines_zero_lines, declaration]
  by_cases global : c.qualifier.isEmpty = true
  · rw [depth, if_pos global] at body
    simp [global, depth, classLayout, Layout.allLines, Layout.lines, Layout.allLines_lines,
      body, margin]
  · rw [depth, if_neg global] at body
    simp [global, depth, classLayout, Layout.allLines, Layout.lines, Layout.allLines_lines,
      body, margin, String.append_assoc]

theorem IsWrittenIn.hasLines_paragraph (h : c.IsWrittenIn text) {lines : List String}
    (h' : lines ∈ c.paragraphs) : Text.HasLines text lines :=
  ⟨_, h, (infix_intercalate "" h').trans (List.infix_append _ _ _)⟩

/-- Every member stands in the text. -/
theorem IsWrittenIn.hasLines_member (h : c.IsWrittenIn text) {member : GeneratedMember}
    (h' : member ∈ c.members) : Text.HasLines text (c.memberLines member) :=
  h.hasLines_paragraph (List.mem_append_right _ (List.mem_map_of_mem h'))

end GeneratedClass

/-! ## Methods in the text -/

namespace GeneratedMember

/-- The last statement of a member, if its body ends with a statement. -/
def lastStatement? (c : GeneratedClass) : GeneratedMember → Option String
  | .constructor .. => some (names.preBuild ++ "();")
  | .setter _ | .addTo .. => some "return this;"
  | .build _ => some "return result;"
  | .buildMany => some ("return Enumerable.Range(0, count).Select(_ => " ++ names.build ++ "());")
  | .buildDefault parameters =>
    some ("return new " ++ c.entityType ++ "(" ++
      ", ".intercalate (parameters.map fun parameter => escapeIdentifier parameter.name) ++ ");")
  | .factory _ => some ("return new " ++ c.builderType ++ "();")
  | .implicitCast => some ("return builder." ++ names.build ++ "();")
  | .creator | .preBuild | .postBuild | .setUnreachable => none

variable {c : GeneratedClass} {depth : Nat} {head last : String}

/-- A block in braces is a method if its body ends with a statement. -/
theorem isMethod_block {body : List Layout} (ends : body.getLast? = some (.line last)) (depth : Nat)
    (head : String) : Text.IsMethod depth head last (allLines depth [.line head, .block body ""]) := by
  obtain ⟨statements, rfl⟩ := List.getLast?_eq_some_iff.mp ends
  exact ⟨allLines (depth + 1) statements, by simp [allLines, Layout.lines, Layout.allLines_append]⟩

theorem eq_of_isMethod_block {start statement : String} {body : List Layout}
    (ends : body.getLast? = some (.line statement))
    (h : Text.IsMethod depth head last (allLines depth [.line start, .block body ""])) :
    statement = last := by
  have same := (isMethod_block ends depth start).getLast?_dropLast.symm.trans h.getLast?_dropLast
  exact (String.append_right_inj _).mp (Option.some.inj same)

/-- The line in front of the closing brace stands deeper than the opening brace. -/
theorem not_isMethod_empty {start : String} :
    ¬ Text.IsMethod depth head last (allLines depth [.line start, .block [] ""]) := by
  intro h
  have same := h.getLast?_dropLast
  have deeper : indentation (depth + 1) = indentation depth ++ "    " := by
    simp [indentation, Nat.mul_add, List.replicate_add]
  simp [allLines, Layout.lines, deeper, String.append_assoc, ← String.toList_inj] at same

theorem eq_brace_of_isMethod_block {start : String} {body inner : List Layout}
    (ends : body.getLast? = some (.block inner ""))
    (h : Text.IsMethod depth head last (allLines depth [.line start, .block body ""])) :
    last = "\x7d" := by
  obtain ⟨statements, rfl⟩ := List.getLast?_eq_some_iff.mp ends
  have same := h.getLast?_dropLast
  have written : allLines depth [.line start, .block (statements ++ [.block inner ""]) ""] =
      [indentation depth ++ start, indentation depth ++ "\x7b"] ++ allLines (depth + 1) statements ++
        (indentation (depth + 1) ++ "\x7b") :: allLines (depth + 2) inner ++
        [indentation (depth + 1) ++ "\x7d"] ++ [indentation depth ++ "\x7d"] := by
    simp [allLines, Layout.lines, Layout.allLines_append]
  rw [written, List.dropLast_concat, List.getLast?_concat] at same
  exact ((String.append_right_inj _).mp (Option.some.inj same)).symm

/-- Members that are methods end with their last statements. -/
theorem lastStatement?_of_isMethod {member : GeneratedMember} (notBrace : last ≠ "\x7d")
    (h : Text.IsMethod depth head last (allLines depth (member.layout c))) :
    member.lastStatement? c = some last := by
  cases member with
  | constructor initial setup => exact congrArg some (eq_of_isMethod_block (by simp) h)
  | setter tracked =>
    rw [layout, setterLayout] at h
    split at h <;> exact congrArg some (eq_of_isMethod_block rfl h)
  | addTo tracked collection =>
    refine congrArg some (eq_of_isMethod_block ?_ h)
    cases collection <;> rfl
  | build method => exact congrArg some (eq_of_isMethod_block (by simp [buildBody]) h)
  | buildMany | buildDefault | factory | implicitCast =>
    exact congrArg some (eq_of_isMethod_block rfl h)
  | preBuild | postBuild => exact absurd h not_isMethod_empty
  | creator =>
    have same := h.getLast?_dropLast
    cases same
  | setUnreachable =>
    rw [layout] at h
    delta setUnreachableLayout at h
    exact absurd (eq_brace_of_isMethod_block rfl h) notBrace

end GeneratedMember

namespace GeneratedClass

variable {c : GeneratedClass}

/-- Fields are no method: they do not end with a brace. -/
theorem not_isMethod_fieldLines {head last : String} :
    ¬ Text.IsMethod c.depth head last c.fieldLines := by
  rintro ⟨statements, same⟩
  have brace : indentation c.depth ++ "\x7d" ∈ c.fieldLines := by simp [same]
  have starts (field : GeneratedField) : ∃ text, field.layout c.config = .line text ∧
      text.toList.head? = some 'p' := by
    cases field <;> exact ⟨_, rfl, by simp⟩
  rw [fieldLines, Layout.allLines_eq_flatMap, List.mem_flatMap] at brace
  obtain ⟨piece, hpiece, hline⟩ := brace
  obtain ⟨field, -, rfl⟩ := List.mem_map.mp hpiece
  obtain ⟨text, written, letter⟩ := starts field
  rw [written, Layout.lines, List.mem_singleton, String.append_right_inj] at hline
  subst hline
  cases letter

/-- The methods of a text are among the members of its class. -/
theorem exists_isMethod_paragraph_iff {head last : String} :
    (∃ lines ∈ c.paragraphs, Text.IsMethod c.depth head last lines) ↔
      ∃ member ∈ c.members, Text.IsMethod c.depth head last (c.memberLines member) := by
  rw [paragraphs]
  constructor
  · rintro ⟨lines, hlines, isMethod⟩
    obtain hlines | hlines := List.mem_append.mp hlines
    · split at hlines
      · cases hlines
      · obtain rfl := List.mem_singleton.mp hlines
        exact absurd isMethod not_isMethod_fieldLines
    · obtain ⟨member, hmember, rfl⟩ := List.mem_map.mp hlines
      exact ⟨member, hmember, isMethod⟩
  · rintro ⟨member, hmember, isMethod⟩
    exact ⟨_, List.mem_append_right _ (List.mem_map_of_mem hmember), isMethod⟩

/-- A text has a method of a kind if the class has a member of this kind, given that no other members
end with its last statement. -/
theorem exists_isMethod_iff {head last : String} {kind : GeneratedMember → Prop}
    (notBrace : last ≠ "\x7d")
    (isMethod : ∀ member, kind member → Text.IsMethod c.depth head last (c.memberLines member))
    (only : ∀ member, member.lastStatement? c = some last → kind member) :
    (∃ lines ∈ c.paragraphs, Text.IsMethod c.depth head last lines) ↔
      ∃ member ∈ c.members, kind member :=
  exists_isMethod_paragraph_iff.trans <| exists_congr fun member => and_congr_right fun _ =>
    ⟨fun h => only member (GeneratedMember.lastStatement?_of_isMethod notBrace h), isMethod member⟩

end GeneratedClass

end FluentGen
