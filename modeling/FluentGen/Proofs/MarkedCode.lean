import FluentGen.Proofs.Building
/-!
# Code with its references marked

The lines of a declaration are put together from pieces, some of which refer to other declarations of
the builder. Here these are marked. Whatever else is in a line is the head of a declaration, a word of
the generator, in which no name of the builder stands, or taken over from the entity and the options.

## Main definitions
* `Use`: a reference of generated code to the builder.
* `Piece`, `CodeLine`: a line in pieces.
* `CodeLine.AllMarked`: no reference in lines is left unmarked.
* `GeneratedField.code`, `GeneratedMember.code`: declarations with their references marked.
* `GeneratedField.uses`, `GeneratedMember.uses`: the references of a declaration.

## Main statements
* `GeneratedMember.allLines_layout`: marked code is written as the lines of the declaration.
* `GeneratedMember.mem_allUses_code_iff`: the references of a declaration are those that are marked.
* `GeneratedMember.allMarked_code`: none is left unmarked.
-/
namespace FluentGen

open Layout (allLines indentation)

/-- A reference of generated code to the builder. -/
inductive Use where
  /-- A field that is read or written. -/
  | field (name : String)
  /-- The default of a member in the initializer of its field. -/
  | default (member : Member) (name : String)
  | preBuild
  | postBuild
  | setUnreachable
  | build
  /-- A new builder. -/
  | newBuilder
  deriving DecidableEq, Repr

/-- A reference as it is written. -/
def Use.text (c : GeneratedClass) : Use → String
  | .field name | .default _ name => name
  | .preBuild => names.preBuild
  | .postBuild => names.postBuild
  | .setUnreachable => names.setUnreachable
  | .build => names.build
  | .newBuilder => "new " ++ c.builderType

/-- Whether no name of the builder stands in a text. -/
def IsForeign (text : String) : Prop :=
  ∀ name ∈ [names.preBuild, names.postBuild, names.setUnreachable, names.build, names.fixtureField,
    names.defaultStart], ¬ Within name text

instance (text : String) : Decidable (IsForeign text) :=
  inferInstanceAs (Decidable (∀ _ ∈ _, _))

/-- A piece of a line. -/
inductive Piece where
  /-- Words of the generator, the same in every class. -/
  | own (text : String)
  /-- The beginning of a declaration, up to its parameters. -/
  | head (text : String)
  /-- A type, a name or another text of the entity or the options. -/
  | taken (text : String)
  | use (use : Use)
  /-- What an option makes of references. -/
  | made (text : String) (given : List Use)

/-- A line in pieces, inside so many blocks of its declaration. -/
structure CodeLine where
  depth : Nat := 0
  pieces : List Piece

namespace Piece

/-- A piece as it is written. -/
def text (c : GeneratedClass) : Piece → String
  | own text | head text | taken text | made text _ => text
  | use reference => reference.text c

/-- Pieces as they are written, one after the other. -/
def spell (c : GeneratedClass) (pieces : List Piece) : String :=
  String.join (pieces.map (text c))

/-- The references of a piece. -/
@[simp]
def uses : Piece → List Use
  | own _ | head _ | taken _ => []
  | use reference => [reference]
  | made _ given => given

/-- The references of pieces. -/
def allUses (pieces : List Piece) : List Use :=
  pieces.flatMap uses

/-- Whether no reference is left unmarked: none stands in the words of the generator. -/
@[simp]
def IsMarked : Piece → Prop
  | own text => IsForeign text
  | head _ | taken _ | use _ | made _ _ => True

/-- Whether no reference of pieces is left unmarked. -/
def AllMarked (pieces : List Piece) : Prop :=
  ∀ piece ∈ pieces, piece.IsMarked

variable (c : GeneratedClass)

@[simp]
theorem spell_nil : spell c [] = "" := rfl

@[simp]
theorem spell_cons (piece : Piece) (pieces : List Piece) :
    spell c (piece :: pieces) = piece.text c ++ spell c pieces := by
  simp [spell, String.join_cons]

@[simp]
theorem spell_append (pieces others : List Piece) :
    spell c (pieces ++ others) = spell c pieces ++ spell c others := by
  simp [spell, String.join_append]

@[simp]
theorem allUses_nil : allUses [] = [] := rfl

@[simp]
theorem allUses_cons (piece : Piece) (pieces : List Piece) :
    allUses (piece :: pieces) = piece.uses ++ allUses pieces :=
  List.flatMap_cons

@[simp]
theorem allUses_append (pieces others : List Piece) :
    allUses (pieces ++ others) = allUses pieces ++ allUses others :=
  List.flatMap_append

@[simp]
theorem allMarked_nil : AllMarked [] :=
  List.forall_mem_nil _

@[simp]
theorem allMarked_cons (piece : Piece) (pieces : List Piece) :
    AllMarked (piece :: pieces) ↔ piece.IsMarked ∧ AllMarked pieces :=
  List.forall_mem_cons

@[simp]
theorem allMarked_append (pieces others : List Piece) :
    AllMarked (pieces ++ others) ↔ AllMarked pieces ∧ AllMarked others :=
  List.forall_mem_append

end Piece

namespace CodeLine

/-- A line as it is written. -/
def text (c : GeneratedClass) (depth : Nat) (line : CodeLine) : String :=
  indentation (depth + line.depth) ++ Piece.spell c line.pieces

/-- The references of lines. -/
def allUses (lines : List CodeLine) : List Use :=
  lines.flatMap fun line => Piece.allUses line.pieces

/-- Whether no reference of lines is left unmarked. -/
def AllMarked (lines : List CodeLine) : Prop :=
  ∀ line ∈ lines, Piece.AllMarked line.pieces

/-- A line that stands one block deeper. -/
def deeper (line : CodeLine) : CodeLine where
  depth := line.depth + 1
  pieces := line.pieces

@[simp]
theorem allUses_nil : allUses [] = [] := rfl

@[simp]
theorem allUses_cons (line : CodeLine) (lines : List CodeLine) :
    allUses (line :: lines) = Piece.allUses line.pieces ++ allUses lines :=
  List.flatMap_cons

@[simp]
theorem allUses_append (lines others : List CodeLine) :
    allUses (lines ++ others) = allUses lines ++ allUses others :=
  List.flatMap_append

@[simp]
theorem allUses_map {α : Type} (f : α → CodeLine) (items : List α) :
    allUses (items.map f) = items.flatMap fun item => Piece.allUses (f item).pieces :=
  List.flatMap_map ..

@[simp]
theorem allUses_flatMap {α : Type} (f : α → List CodeLine) (items : List α) :
    allUses (items.flatMap f) = items.flatMap fun item => allUses (f item) :=
  List.flatMap_assoc

@[simp]
theorem allMarked_nil : AllMarked [] :=
  List.forall_mem_nil _

@[simp]
theorem allMarked_cons (line : CodeLine) (lines : List CodeLine) :
    AllMarked (line :: lines) ↔ Piece.AllMarked line.pieces ∧ AllMarked lines :=
  List.forall_mem_cons

@[simp]
theorem allMarked_append (lines others : List CodeLine) :
    AllMarked (lines ++ others) ↔ AllMarked lines ∧ AllMarked others :=
  List.forall_mem_append

@[simp]
theorem allMarked_map {α : Type} (f : α → CodeLine) (items : List α) :
    AllMarked (items.map f) ↔ ∀ item ∈ items, Piece.AllMarked (f item).pieces :=
  List.forall_mem_map

theorem allMarked_flatMap {α : Type} {f : α → List CodeLine} {items : List α}
    (h : ∀ item ∈ items, AllMarked (f item)) : AllMarked (items.flatMap f) := by
  intro line hline
  obtain ⟨item, hitem, hline⟩ := List.mem_flatMap.mp hline
  exact h item hitem line hline

end CodeLine

/-- Lines in braces. -/
def inBraces (body : List CodeLine) (suffix : List Piece) : List CodeLine :=
  ⟨0, [.own "\x7b"]⟩ :: (body.map .deeper ++ [⟨0, .own "\x7d" :: suffix⟩])

/-- A new box. -/
def newBoxCode (type : TypeRef) (value : List Piece) : List Piece :=
  [.own "new ", .taken (boxText type), .own "("] ++ value ++ [.own ")"]

/-- The value of a field in its box. -/
def boxedCode (field : String) : List Piece :=
  [.use (.field field), .own ".Value.Object"]

/-- A value that building passes on. -/
def BuildValue.code (config : Configuration) : BuildValue → List Piece
  | .mocked field => [.made (mockedText config field) [.field field]]
  | .boxed field type =>
    [.use (.field field), .own ".HasValue ? "] ++ boxedCode field ++
      [.own " : ", .taken (defaultText config type)]
  | .untracked type => [.taken (defaultText config type)]

/-- The first value of a member. Made-up values are made with the fixture. -/
def TrackedMember.initialCode (config : Configuration) (tracked : TrackedMember) :
    InitialValue → List Piece
  | .mock => [.taken (Text.expand config.mocking.valueFormat [tracked.type.bare.display])]
  | .fixture =>
    newBoxCode tracked.type
      [.made (Text.expand config.fixture.createFormat [names.fixtureField, tracked.type.bare.display])
        [.field names.fixtureField]]
  | .emptyCollection collection =>
    newBoxCode tracked.type [.taken (collection.emptyText tracked.type)]

/-- The declaration of a field. -/
def GeneratedField.code (config : Configuration) : GeneratedField → List Piece
  | .fixture =>
    [.head ("private readonly " ++ config.fixture.typeName ++ " " ++ names.fixtureField),
      .own " = new ", .taken config.fixture.typeName, .own "(",
      .taken (config.fixture.constructorArguments.getD ""), .own ");"]
  | .backing tracked =>
    .head ("private " ++ tracked.fieldType config ++ " " ++ tracked.fieldName) ::
      (tracked.defaultField.elim [] (fun field =>
        .own " = " :: newBoxCode tracked.type [.use (.default tracked.member field)]) ++ [.own ";"])

namespace GeneratedMember

/-- A declaration in pieces, with a body in braces. -/
def blockCode (head : String) (body : List CodeLine) : List CodeLine :=
  ⟨0, [.head head]⟩ :: inBraces body []

/-- The setter of a member. -/
def setterCode (type : String) (config : Configuration) (tracked : TrackedMember) : List CodeLine :=
  let head := "public " ++ type ++ " " ++ tracked.setterName config
  if tracked.mockable then
    blockCode (head ++ "(System.Action<" ++ tracked.fieldType config ++ "> setup)")
      [⟨0, [.own "setup(", .use (.field tracked.fieldName), .own ");"]⟩, ⟨0, [.own "return this;"]⟩]
  else
    blockCode (head ++ "(" ++ tracked.type.display ++ " value)")
      [⟨0, [.use (.field tracked.fieldName), .own " = "] ++ newBoxCode tracked.type [.own "value"] ++
          [.own ";"]⟩,
        ⟨0, [.own "return this;"]⟩]

/-- The body of a method that appends. -/
def addToCode (tracked : TrackedMember) (collection : Collection) : List CodeLine :=
  let field := tracked.fieldName
  let assigned := [.use (.field field), .own ".HasValue && "] ++ boxedCode field ++ [.own " != null"]
  match collection with
  | .array element =>
    [⟨0, [.own "var current = "] ++ assigned ++ [.own " ? "] ++ boxedCode field ++
        [.own " : System.Array.Empty<", .taken element.display, .own ">();"]⟩,
      ⟨0, [.use (.field field), .own " = "] ++
        newBoxCode tracked.type [.own "current.Concat(items).ToArray()"] ++ [.own ";"]⟩,
      ⟨0, [.own "return this;"]⟩]
  | _ =>
    let append : List CodeLine :=
      [⟨0, [if collection.isMap then .own "collection[item.Key] = item.Value;"
        else .own "collection.Add(item);"]⟩]
    [⟨0, [.own "var collection = new ", .taken (collection.backingType tracked.type.bare).display,
        .own "();"]⟩,
      ⟨0, [.own "if ("] ++ assigned ++ [.own ")"]⟩] ++
      inBraces
        (⟨0, [.own "foreach (var item in "] ++ boxedCode field ++ [.own ")"]⟩ :: inBraces append [])
        [] ++
      [⟨0, [.own "foreach (var item in items)"]⟩] ++ inBraces append [] ++
      [⟨0, [.use (.field field), .own " = "] ++ newBoxCode tracked.type [.own "collection"] ++
          [.own ";"]⟩,
        ⟨0, [.own "return this;"]⟩]

/-- The call of the entity's constructor. -/
def callCode (entityType : String) (arguments : List (List Piece)) (terminator : List Piece) :
    List CodeLine :=
  match arguments.reverse with
  | [] => [⟨0, [.own "var result = new ", .taken entityType, .own "()"] ++ terminator⟩]
  | last :: others =>
    ⟨0, [.own "var result = new ", .taken entityType, .own "("]⟩ ::
      (others.reverse.map (fun argument => ⟨1, argument ++ [.own ","]⟩) ++
        [⟨1, last ++ .own ")" :: terminator⟩])

/-- The assignment of an unreachable property. -/
def unreachableCode (config : Configuration) (tracked : TrackedMember) : List CodeLine :=
  let assign (value : List Piece) : CodeLine :=
    ⟨0, [.use .setUnreachable, .own "(result, \"", .taken tracked.member.name, .own "\", "] ++
      value ++ [.own ");"]⟩
  if tracked.mockable then
    [assign [.made (mockedText config tracked.fieldName) [.field tracked.fieldName]]]
  else
    ⟨0, [.own "if (", .use (.field tracked.fieldName), .own ".HasValue)"]⟩ ::
      inBraces [assign (boxedCode tracked.fieldName)] []

/-- The body of the method that builds. -/
def buildCode (entityType : String) (config : Configuration) (method : BuildMethod) :
    List CodeLine :=
  let arguments := method.arguments.map (BuildValue.code config)
  let created :=
    if method.initializers.isEmpty then callCode entityType arguments [.own ";"]
    else
      callCode entityType arguments [] ++
        inBraces
          (method.initializers.map fun initializer =>
            ⟨0, [.taken initializer.property, .own " = "] ++ initializer.value.code config ++
              [.own ","]⟩)
          [.own ";"]
  created ++ method.unreachable.flatMap (unreachableCode config) ++
    [⟨0, [.use .postBuild, .own "(result);"]⟩, ⟨0, [.own "return result;"]⟩]

/-- The method that builds in one step. -/
def buildDefaultCode (entityType : String) (parameters : List Member) : List CodeLine :=
  let declarations := parameters.map fun parameter =>
    parameter.type.display ++ " " ++ escapeIdentifier parameter.name ++ " = default(" ++
      parameter.type.display ++ ")"
  let arguments := parameters.map fun parameter => escapeIdentifier parameter.name
  blockCode
    ("public static " ++ entityType ++ " " ++ names.buildDefault ++ "(" ++
      ", ".intercalate declarations ++ ")")
    [⟨0, [.own "return new ", .taken entityType, .own "(", .taken (", ".intercalate arguments),
      .own ");"]⟩]

/-- The method that assigns a property by reflection. It uses nothing of the builder. -/
def setUnreachableCode : List CodeLine :=
  let flags : List Piece :=
    [.own "System.Reflection.BindingFlags.Instance | ",
      .own "System.Reflection.BindingFlags.Public | System.Reflection.BindingFlags.NonPublic"]
  blockCode ("private static void " ++ names.setUnreachable ++
      "(object target, string name, object value)")
    ([⟨0, [.own "var type = target.GetType();"]⟩,
        ⟨0, [.own "var property = type.GetProperty(name, "] ++ flags ++ [.own ");"]⟩,
        ⟨0, [.own "if (property != null && property.CanWrite)"]⟩] ++
      inBraces [⟨0, [.own "property.SetValue(target, value);"]⟩, ⟨0, [.own "return;"]⟩] [] ++
      [⟨0, [.own "for (var current = type; current != null; current = current.BaseType)"]⟩] ++
      inBraces
        ([⟨0, [.own "var field = current.GetField(\"<\" + name + \">k__BackingField\", "] ++ flags ++
            [.own ");"]⟩,
          ⟨0, [.own "if (field != null)"]⟩] ++
          inBraces [⟨0, [.own "field.SetValue(target, value);"]⟩, ⟨0, [.own "return;"]⟩] []) [])

/-- The declaration of a member. -/
def code (c : GeneratedClass) : GeneratedMember → List CodeLine
  | .constructor initial setup =>
    blockCode ("public " ++ c.name ++ "()")
      (initial.map (fun (tracked, value) =>
          ⟨0, [.use (.field tracked.fieldName), .own " = "] ++ tracked.initialCode c.config value ++
            [.own ";"]⟩) ++
        setup.toList.map (fun statement => ⟨0, [.made statement [.field names.fixtureField]]⟩) ++
        [⟨0, [.use .preBuild, .own "();"]⟩])
  | .setter tracked => setterCode c.builderType c.config tracked
  | .addTo tracked collection =>
    blockCode ("public " ++ c.builderType ++ " " ++ tracked.addToName ++ "(params " ++
        (TypeRef.arrayOf collection.itemType).display ++ " items)") (addToCode tracked collection)
  | .build method =>
    blockCode ("public " ++ c.entityType ++ " " ++ names.build ++ "()")
      (buildCode c.entityType c.config method)
  | .buildMany =>
    blockCode ("public System.Collections.Generic.IEnumerable<" ++ c.entityType ++ "> " ++
        names.buildMany ++ "(int count = 3)")
      [⟨0, [.own "return Enumerable.Range(0, count).Select(_ => ", .use .build, .own "());"]⟩]
  | .buildDefault parameters => buildDefaultCode c.entityType parameters
  | .factory name =>
    blockCode ("public static " ++ c.builderType ++ " " ++ name ++ "()")
      [⟨0, [.own "return ", .use .newBuilder, .own "();"]⟩]
  | .creator =>
    [⟨0, [.head ("public static " ++ c.builderType ++ " " ++ names.creator), .own " => ",
      .use .newBuilder, .own "();"]⟩]
  | .implicitCast =>
    blockCode ("public static implicit operator " ++ c.entityType ++ "(" ++ c.builderType ++
        " builder)")
      [⟨0, [.own "return builder.", .use .build, .own "();"]⟩]
  | .preBuild => blockCode ("public void " ++ names.preBuild ++ "()") []
  | .postBuild => blockCode ("public void " ++ names.postBuild ++ "(" ++ c.entityType ++ " entity)") []
  | .setUnreachable => setUnreachableCode

end GeneratedMember

/-! ## What is written -/

section Spelling

variable (c : GeneratedClass) (depth : Nat)

@[simp]
theorem CodeLine.text_mk (inner : Nat) (pieces : List Piece) :
    CodeLine.text c depth ⟨inner, pieces⟩ = indentation (depth + inner) ++ Piece.spell c pieces := rfl

theorem CodeLine.text_deeper (line : CodeLine) :
    line.deeper.text c depth = line.text c (depth + 1) := by
  rw [text, text, deeper, Nat.add_right_comm, Nat.add_assoc]

@[simp]
theorem map_text_inBraces (body : List CodeLine) (suffix : List Piece) :
    (inBraces body suffix).map (CodeLine.text c depth) =
      (indentation depth ++ "\x7b") ::
        (body.map (CodeLine.text c (depth + 1)) ++
          [indentation depth ++ "\x7d" ++ Piece.spell c suffix]) := by
  simp [inBraces, Piece.text, CodeLine.text_deeper, String.append_assoc, Function.comp_def]

@[simp]
theorem spell_newBoxCode (type : TypeRef) (value : List Piece) :
    Piece.spell c (newBoxCode type value) = newBox type (Piece.spell c value) := by
  simp [newBoxCode, newBox, Piece.text, String.append_assoc]

@[simp]
theorem spell_boxedCode (field : String) :
    Piece.spell c (boxedCode field) = field ++ ".Value.Object" := by
  simp [boxedCode, Piece.text, Use.text]

@[simp]
theorem BuildValue.spell_code (value : BuildValue) :
    Piece.spell c (value.code c.config) = value.text c.config := by
  cases value <;>
    simp [code, text, Piece.text, Use.text, String.append_assoc, ← String.toList_inj]

@[simp]
theorem TrackedMember.spell_initialCode (tracked : TrackedMember) (value : InitialValue) :
    Piece.spell c (tracked.initialCode c.config value) = tracked.initialText c.config value := by
  cases value <;> simp [initialCode, initialText, Piece.text]

/-- The marked code of a field is written as its declaration. -/
theorem GeneratedField.lines_layout (field : GeneratedField) :
    (field.layout c.config).lines depth =
      [indentation depth ++ Piece.spell c (field.code c.config)] := by
  cases field with
  | fixture => simp [layout, code, Layout.lines, Piece.text, String.append_assoc]
  | backing tracked =>
    cases own : tracked.defaultField <;>
      simp [layout, code, own, Layout.lines, Piece.text, Use.text, String.append_assoc]

namespace GeneratedMember

theorem map_text_blockCode {head : String} {body : List CodeLine} {pieces : List Layout}
    (same : ∀ depth, body.map (CodeLine.text c depth) = allLines depth pieces) :
    (blockCode head body).map (CodeLine.text c depth) =
      allLines depth [.line head, .block pieces ""] := by
  simp [blockCode, same, allLines, Layout.lines, Piece.text]

theorem map_text_setterCode (tracked : TrackedMember) :
    (setterCode c.builderType c.config tracked).map (CodeLine.text c depth) =
      allLines depth (setterLayout c.builderType c.config tracked) := by
  unfold setterCode setterLayout
  split
  · exact map_text_blockCode c depth (by
      simp [allLines, Layout.lines, Piece.text, Use.text, String.append_assoc])
  · exact map_text_blockCode c depth (by
      simp [allLines, Layout.lines, Piece.text, Use.text, String.append_assoc])

theorem map_text_addToCode (tracked : TrackedMember) (collection : Collection) :
    (addToCode tracked collection).map (CodeLine.text c depth) =
      allLines depth (addToBody tracked collection) := by
  cases collection with
  | array element =>
    simp [addToCode, addToBody, allLines, Layout.lines, Piece.text, Use.text, ← String.toList_inj]
  | _ =>
    simp [addToCode, addToBody, Collection.isMap, allLines, Layout.lines, Piece.text, Use.text,
      String.append_assoc]

theorem allLines_map_line {α : Type} (f : α → String) (items : List α) :
    allLines depth (items.map fun item => .line (f item)) =
      items.map fun item => indentation depth ++ f item := by
  have lines := Layout.allLines_lines depth (items.map f)
  rwa [List.map_map, List.map_map] at lines

theorem map_text_callCode (entityType : String) (arguments : List (List Piece))
    (terminator : List Piece) :
    (callCode entityType arguments terminator).map (CodeLine.text c depth) =
      allLines depth
        (callLayout entityType (arguments.map (Piece.spell c)) (Piece.spell c terminator)) := by
  have spelled : (arguments.map (Piece.spell c)).reverse = arguments.reverse.map (Piece.spell c) :=
    List.map_reverse.symm
  unfold callCode callLayout
  rw [spelled]
  cases arguments.reverse with
  | nil => simp [allLines, Layout.lines, Piece.text, String.append_assoc]
  | cons last others =>
    simp only [List.map_cons, ← List.map_reverse]
    generalize others.reverse = earlier
    simp [allLines, Layout.allLines_append, Function.comp_def, allLines_map_line, Layout.lines,
      Piece.text, String.append_assoc]

theorem map_text_unreachableCode (tracked : TrackedMember) :
    (unreachableCode c.config tracked).map (CodeLine.text c depth) =
      allLines depth (unreachableLayout c.config tracked) := by
  unfold unreachableCode unreachableLayout
  split <;> simp [allLines, Layout.lines, Piece.text, Use.text, String.append_assoc]

theorem map_text_buildCode (entityType : String) (method : BuildMethod) :
    (buildCode entityType c.config method).map (CodeLine.text c depth) =
      allLines depth (buildBody entityType c.config method) := by
  have passed : method.arguments.map (BuildValue.text c.config) =
      (method.arguments.map (BuildValue.code c.config)).map (Piece.spell c) := by
    simp [Function.comp_def]
  have unreachable :
      (method.unreachable.flatMap (unreachableCode c.config)).map (CodeLine.text c depth) =
        allLines depth (method.unreachable.flatMap (unreachableLayout c.config)) := by
    rw [List.map_flatMap, Layout.allLines_eq_flatMap, List.flatMap_assoc]
    refine List.flatMap_congr fun tracked _ => ?_
    rw [map_text_unreachableCode, Layout.allLines_eq_flatMap]
  simp only [buildCode, buildBody, List.map_append, Layout.allLines_append, unreachable, passed]
  congr 1
  · congr 1
    split
    · rw [map_text_callCode]
      simp [Piece.text]
    · simp [map_text_callCode, Layout.allLines_append, allLines, Layout.lines, Function.comp_def,
        allLines_map_line, Piece.text, String.append_assoc]

theorem map_text_setUnreachableCode :
    setUnreachableCode.map (CodeLine.text c depth) = allLines depth setUnreachableLayout := by
  unfold setUnreachableCode setUnreachableLayout
  refine map_text_blockCode c depth fun depth => ?_
  simp [allLines, Layout.lines, Piece.text]

/-- The marked code of a member is written as its declaration. -/
theorem allLines_layout (member : GeneratedMember) :
    allLines depth (member.layout c) = (member.code c).map (CodeLine.text c depth) := by
  symm
  cases member with
  | constructor initial setup =>
    refine map_text_blockCode c depth fun depth => ?_
    have assigned := allLines_map_line depth (fun entry : TrackedMember × InitialValue =>
      entry.1.fieldName ++ " = " ++ entry.1.initialText c.config entry.2 ++ ";") initial
    simp only [List.map_append, Layout.allLines_append, Layout.allLines_lines]
    rw [assigned]
    simp [Function.comp_def, allLines, Layout.lines, Piece.text, Use.text, String.append_assoc]
  | setter tracked => exact map_text_setterCode c depth tracked
  | addTo tracked collection =>
    exact map_text_blockCode c depth fun depth => map_text_addToCode c depth tracked collection
  | build method => exact map_text_blockCode c depth fun depth => map_text_buildCode c depth _ method
  | setUnreachable => exact map_text_setUnreachableCode c depth
  | creator =>
    simp [layout, code, allLines, Layout.lines, Piece.text, Use.text, ← String.toList_inj]
  | factory | buildMany | buildDefault | implicitCast | preBuild | postBuild =>
    refine map_text_blockCode c depth fun depth => ?_
    simp [allLines, Layout.lines, Piece.text, Use.text, ← String.toList_inj]

end GeneratedMember

end Spelling

/-! ## References -/

/-- The reference of a value to the field that it comes from. -/
def BuildValue.uses (value : BuildValue) : List Use :=
  (value.field?.map .field).toList

/-- The references of the method that builds. -/
def BuildMethod.uses (method : BuildMethod) : List Use :=
  method.arguments.flatMap BuildValue.uses ++
    method.initializers.flatMap (·.value.uses) ++
    method.unreachable.flatMap (fun tracked => [.setUnreachable, .field tracked.fieldName]) ++
    [.postBuild]

/-- The references of the constructor. Made-up values and the statement of the author are made with
the fixture. -/
def constructorUses (initial : List (TrackedMember × InitialValue)) (setup : Option String) :
    List Use :=
  (initial.flatMap fun (tracked, value) =>
      .field tracked.fieldName :: if value = .fixture then [.field names.fixtureField] else []) ++
    (setup.map fun _ => .field names.fixtureField).toList ++ [.preBuild]

/-- The references of a generated field. -/
def GeneratedField.uses : GeneratedField → List Use
  | .fixture => []
  | .backing tracked => (tracked.defaultField.map (.default tracked.member)).toList

/-- The references of a generated member. -/
def GeneratedMember.uses : GeneratedMember → List Use
  | .constructor initial setup => constructorUses initial setup
  | .setter tracked | .addTo tracked _ => [.field tracked.fieldName]
  | .build method => method.uses
  | .buildMany | .implicitCast => [.build]
  | .factory _ | .creator => [.newBuilder]
  | .buildDefault _ | .preBuild | .postBuild | .setUnreachable => []

section Uses

variable {use : Use} {config : Configuration}

@[simp]
theorem allUses_inBraces (body : List CodeLine) (suffix : List Piece) :
    CodeLine.allUses (inBraces body suffix) = CodeLine.allUses body ++ Piece.allUses suffix := by
  have deeper : CodeLine.allUses (body.map .deeper) = CodeLine.allUses body :=
    CodeLine.allUses_map ..
  simp [inBraces, deeper, -CodeLine.allUses_map]

@[simp]
theorem allUses_newBoxCode (type : TypeRef) (value : List Piece) :
    Piece.allUses (newBoxCode type value) = Piece.allUses value := by
  simp [newBoxCode]

@[simp]
theorem allUses_boxedCode (field : String) : Piece.allUses (boxedCode field) = [.field field] := rfl

theorem BuildValue.mem_allUses_code_iff {value : BuildValue} :
    use ∈ Piece.allUses (value.code config) ↔ use ∈ value.uses := by
  cases value <;> simp [code, uses, field?]

theorem TrackedMember.mem_allUses_initialCode_iff {tracked : TrackedMember} {value : InitialValue} :
    use ∈ Piece.allUses (tracked.initialCode config value) ↔
      value = .fixture ∧ use = .field names.fixtureField := by
  cases value <;> simp [initialCode]

/-- The references of a field are those that are marked in its code. -/
theorem GeneratedField.mem_allUses_code_iff {field : GeneratedField} :
    use ∈ Piece.allUses (field.code config) ↔ use ∈ field.uses := by
  cases field with
  | fixture => simp [code, uses]
  | backing tracked => cases own : tracked.defaultField <;> simp [code, uses, own]

namespace GeneratedMember

@[simp]
theorem allUses_blockCode (head : String) (body : List CodeLine) :
    CodeLine.allUses (blockCode head body) = CodeLine.allUses body := by
  simp [blockCode]

theorem mem_allUses_callCode_iff {entityType : String} {arguments : List (List Piece)}
    {terminator : List Piece} :
    use ∈ CodeLine.allUses (callCode entityType arguments terminator) ↔
      (∃ argument ∈ arguments, use ∈ Piece.allUses argument) ∨ use ∈ Piece.allUses terminator := by
  have listed : ∀ argument, argument ∈ arguments ↔ argument ∈ arguments.reverse := by simp
  simp only [callCode, listed]
  cases arguments.reverse with
  | nil => simp
  | cons last others =>
    simp only [CodeLine.allUses_cons, CodeLine.allUses_append, CodeLine.allUses_map,
      CodeLine.allUses_nil, Piece.allUses_cons, Piece.allUses_append, Piece.allUses_nil, Piece.uses,
      List.nil_append, List.append_nil, List.mem_append, List.mem_flatMap, List.mem_reverse,
      List.mem_cons, exists_eq_or_imp]
    grind

theorem mem_allUses_unreachableCode_iff {tracked : TrackedMember} :
    use ∈ CodeLine.allUses (unreachableCode config tracked) ↔
      use = .setUnreachable ∨ use = .field tracked.fieldName := by
  unfold unreachableCode
  split
  · simp
  · simp +contextual

theorem mem_allUses_buildCode_iff {entityType : String} {method : BuildMethod} :
    use ∈ CodeLine.allUses (buildCode entityType config method) ↔ use ∈ method.uses := by
  simp only [buildCode, BuildMethod.uses]
  split
  next none =>
    rw [List.isEmpty_iff] at none
    simp [mem_allUses_callCode_iff, BuildValue.mem_allUses_code_iff, mem_allUses_unreachableCode_iff,
      none]
  next =>
    simp [mem_allUses_callCode_iff, BuildValue.mem_allUses_code_iff, mem_allUses_unreachableCode_iff]

/-- The references of a member are those that are marked in its code. -/
theorem mem_allUses_code_iff (c : GeneratedClass) {member : GeneratedMember} :
    use ∈ CodeLine.allUses (member.code c) ↔ use ∈ member.uses := by
  cases member with
  | constructor initial setup =>
    cases setup <;> simp [code, uses, constructorUses, TrackedMember.mem_allUses_initialCode_iff]
  | setter tracked =>
    rw [code, setterCode]
    split <;> simp [uses]
  | addTo tracked collection =>
    cases collection <;> simp [code, addToCode, uses, Collection.isMap]
  | build method => rw [code, allUses_blockCode, mem_allUses_buildCode_iff, uses]
  | setUnreachable => simp [code, setUnreachableCode, uses]
  | buildDefault parameters => simp [code, buildDefaultCode, uses]
  | _ => simp [code, uses]

end GeneratedMember

end Uses

/-! ## No reference is left unmarked -/

section Marked

variable {config : Configuration}

/-- Fixed texts are compared with the names of the builder letter by letter. -/
theorem isForeign_ofList {text : List Char}
    (h : ∀ name ∈ [['P', 'r', 'e', 'B', 'u', 'i', 'l', 'd'],
      ['P', 'o', 's', 't', 'B', 'u', 'i', 'l', 'd'],
      ['S', 'e', 't', 'U', 'n', 'r', 'e', 'a', 'c', 'h', 'a', 'b', 'l', 'e', 'P', 'r', 'o', 'p', 'e',
        'r', 't', 'y'],
      ['B', 'u', 'i', 'l', 'd'], ['_', 'f', 'i', 'x', 't', 'u', 'r', 'e'],
      ['D', 'e', 'f', 'a', 'u', 'l', 't']], ¬ name <:+: text) : IsForeign (String.ofList text) := by
  simpa [IsForeign, Within, names] using h

/-- No name of the builder stands in the words of the generator. -/
theorem isForeign_words :
    IsForeign "\x7b" ∧ IsForeign "\x7d" ∧ IsForeign "new " ∧ IsForeign "(" ∧ IsForeign ")" ∧
    IsForeign ".Value.Object" ∧ IsForeign ".HasValue ? " ∧ IsForeign " : " ∧ IsForeign " = new " ∧
    IsForeign ");" ∧ IsForeign " = " ∧ IsForeign ";" ∧ IsForeign "setup(" ∧
    IsForeign "return this;" ∧ IsForeign "value" ∧ IsForeign ".HasValue && " ∧
    IsForeign " != null" ∧ IsForeign "var current = " ∧ IsForeign " ? " ∧
    IsForeign " : System.Array.Empty<" ∧ IsForeign ">();" ∧
    IsForeign "current.Concat(items).ToArray()" ∧ IsForeign "collection[item.Key] = item.Value;" ∧
    IsForeign "collection.Add(item);" ∧ IsForeign "var collection = new " ∧ IsForeign "();" ∧
    IsForeign "if (" ∧ IsForeign "foreach (var item in " ∧
    IsForeign "foreach (var item in items)" ∧ IsForeign "collection" ∧
    IsForeign "var result = new " ∧ IsForeign "()" ∧ IsForeign "," ∧ IsForeign "(result, \"" ∧
    IsForeign "\", " ∧ IsForeign ".HasValue)" ∧ IsForeign "(result);" ∧
    IsForeign "return result;" ∧ IsForeign "return new " ∧
    IsForeign "System.Reflection.BindingFlags.Instance | " ∧
    IsForeign "System.Reflection.BindingFlags.Public | System.Reflection.BindingFlags.NonPublic" ∧
    IsForeign "var type = target.GetType();" ∧ IsForeign "var property = type.GetProperty(name, " ∧
    IsForeign "if (property != null && property.CanWrite)" ∧
    IsForeign "property.SetValue(target, value);" ∧ IsForeign "return;" ∧
    IsForeign "for (var current = type; current != null; current = current.BaseType)" ∧
    IsForeign "var field = current.GetField(\"<\" + name + \">k__BackingField\", " ∧
    IsForeign "if (field != null)" ∧ IsForeign "field.SetValue(target, value);" ∧
    IsForeign "return Enumerable.Range(0, count).Select(_ => " ∧ IsForeign "());" ∧
    IsForeign "return " ∧ IsForeign " => " ∧ IsForeign "return builder." := by
  and_intros <;> exact isForeign_ofList (by decide +kernel)

@[simp]
theorem allMarked_inBraces (body : List CodeLine) (suffix : List Piece) :
    CodeLine.AllMarked (inBraces body suffix) ↔
      CodeLine.AllMarked body ∧ Piece.AllMarked suffix := by
  have deeper : CodeLine.AllMarked (body.map .deeper) ↔ CodeLine.AllMarked body :=
    CodeLine.allMarked_map ..
  simp [inBraces, isForeign_words, deeper, -CodeLine.allMarked_map]

@[simp]
theorem allMarked_newBoxCode (type : TypeRef) (value : List Piece) :
    Piece.AllMarked (newBoxCode type value) ↔ Piece.AllMarked value := by
  simp [newBoxCode, isForeign_words]

@[simp]
theorem allMarked_boxedCode (field : String) : Piece.AllMarked (boxedCode field) := by
  simp [boxedCode, isForeign_words]

@[simp]
theorem BuildValue.allMarked_code (value : BuildValue) : Piece.AllMarked (value.code config) := by
  cases value <;> simp [code, isForeign_words]

@[simp]
theorem TrackedMember.allMarked_initialCode (tracked : TrackedMember) (value : InitialValue) :
    Piece.AllMarked (tracked.initialCode config value) := by
  cases value <;> simp [initialCode]

/-- The code of a field has no reference that is not marked. -/
theorem GeneratedField.allMarked_code (field : GeneratedField) :
    Piece.AllMarked (field.code config) := by
  cases field with
  | fixture => simp [code, isForeign_words]
  | backing tracked => cases default : tracked.defaultField <;> simp [code, default, isForeign_words]

namespace GeneratedMember

@[simp]
theorem allMarked_blockCode (head : String) (body : List CodeLine) :
    CodeLine.AllMarked (blockCode head body) ↔ CodeLine.AllMarked body := by
  simp [blockCode]

theorem allMarked_setterCode (type : String) (tracked : TrackedMember) :
    CodeLine.AllMarked (setterCode type config tracked) := by
  unfold setterCode
  split <;> simp [isForeign_words]

theorem allMarked_addToCode (tracked : TrackedMember) (collection : Collection) :
    CodeLine.AllMarked (addToCode tracked collection) := by
  cases collection <;> simp [addToCode, Collection.isMap, isForeign_words]

theorem allMarked_callCode (entityType : String) {arguments : List (List Piece)}
    {terminator : List Piece} (passed : ∀ argument ∈ arguments, Piece.AllMarked argument)
    (behind : Piece.AllMarked terminator) :
    CodeLine.AllMarked (callCode entityType arguments terminator) := by
  have passed : ∀ argument ∈ arguments.reverse, Piece.AllMarked argument := by simpa using passed
  unfold callCode
  cases listed : arguments.reverse with
  | nil => simp [behind, isForeign_words]
  | cons last others =>
    obtain ⟨last, others⟩ := List.forall_mem_cons.mp (listed ▸ passed)
    simpa [-List.map_reverse, last, behind, isForeign_words] using others

theorem allMarked_unreachableCode (tracked : TrackedMember) :
    CodeLine.AllMarked (unreachableCode config tracked) := by
  unfold unreachableCode
  split <;> simp [isForeign_words]

theorem allMarked_buildCode (entityType : String) (method : BuildMethod) :
    CodeLine.AllMarked (buildCode entityType config method) := by
  have unreachable : CodeLine.AllMarked (method.unreachable.flatMap (unreachableCode config)) :=
    CodeLine.allMarked_flatMap fun tracked _ => allMarked_unreachableCode tracked
  have passed : ∀ argument ∈ method.arguments.map (BuildValue.code config),
      Piece.AllMarked argument := by simp
  have call {terminator : List Piece} (behind : Piece.AllMarked terminator) :=
    allMarked_callCode entityType passed behind
  unfold buildCode
  split <;> simp [call, unreachable, isForeign_words]

/-- The code of a member has no reference that is not marked. -/
theorem allMarked_code (c : GeneratedClass) (member : GeneratedMember) :
    CodeLine.AllMarked (member.code c) := by
  cases member with
  | constructor initial setup => simp [code, isForeign_words]
  | setter tracked => exact allMarked_setterCode _ tracked
  | addTo tracked collection => simpa [code] using allMarked_addToCode tracked collection
  | build method => simpa [code] using allMarked_buildCode _ method
  | buildDefault parameters => simp [code, buildDefaultCode, isForeign_words]
  | setUnreachable => simp [code, setUnreachableCode, isForeign_words]
  | buildMany | factory | creator | implicitCast | preBuild | postBuild =>
    simp [code, isForeign_words]

end GeneratedMember

end Marked

end FluentGen
