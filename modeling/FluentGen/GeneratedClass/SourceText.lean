import FluentGen.GeneratedClass
import FluentGen.Layout
/-!
# The text of a generated class

## Main definitions
* `BuildValue.text`, `TrackedMember.initialText`: expressions.
* `GeneratedField.layout`, `GeneratedMember.layout`: declarations.
* `GeneratedClass.sourceText`: the file.
-/
namespace FluentGen

open Layout (line block indented blank)

/-- The default of a type. Where annotations are on it is marked as not null. -/
def defaultText (config : Configuration) (type : TypeRef) : String :=
  "default(" ++ type.display ++ ")" ++
    (if config.builder.nullableStrategy = .enabled then "!" else "")

/-- The object of the mock in a field. -/
def mockedText (config : Configuration) (field : String) : String :=
  Text.expand config.mocking.objectFormat [field]

/-- The expression of a value that building passes on. -/
def BuildValue.text (config : Configuration) : BuildValue → String
  | .mocked field => mockedText config field
  | .boxed field type =>
    field ++ ".HasValue ? " ++ field ++ ".Value.Object : " ++ defaultText config type
  | .untracked type => defaultText config type

/-- A new box around a value. -/
def newBox (type : TypeRef) (value : String) : String :=
  "new " ++ boxText type ++ "(" ++ value ++ ")"

/-- An empty collection for a member of the given type. -/
def Collection.emptyText (collection : Collection) (type : TypeRef) : String :=
  match collection with
  | .array element => "System.Array.Empty<" ++ element.display ++ ">()"
  | _ => "new " ++ (collection.backingType type.bare).display ++ "()"

/-- The expression of the first value of a member. -/
def TrackedMember.initialText (config : Configuration) (tracked : TrackedMember) :
    InitialValue → String
  | .mock => Text.expand config.mocking.valueFormat [tracked.type.bare.display]
  | .fixture =>
    newBox tracked.type
      (Text.expand config.fixture.createFormat [names.fixtureField, tracked.type.bare.display])
  | .emptyCollection collection => newBox tracked.type (collection.emptyText tracked.type)

/-- The declaration of a field. -/
def GeneratedField.layout (config : Configuration) : GeneratedField → Layout
  | .fixture =>
    line ("private readonly " ++ config.fixture.typeName ++ " " ++ names.fixtureField ++ " = new " ++
      config.fixture.typeName ++ "(" ++ config.fixture.constructorArguments.getD "" ++ ");")
  | .backing tracked =>
    line ("private " ++ tracked.fieldType config ++ " " ++ tracked.fieldName ++
      tracked.defaultField.elim "" (fun field => " = " ++ newBox tracked.type field) ++ ";")

namespace GeneratedMember

/-- A setter: the one of a mock passes it to the caller's delegate, any other one boxes the value. -/
def setterLayout (type : String) (config : Configuration) (tracked : TrackedMember) : List Layout :=
  let head := "public " ++ type ++ " " ++ tracked.setterName config
  if tracked.mockable then
    [line (head ++ "(System.Action<" ++ tracked.fieldType config ++ "> setup)"),
      block [line ("setup(" ++ tracked.fieldName ++ ");"), line "return this;"] ""]
  else
    [line (head ++ "(" ++ tracked.type.display ++ " value)"),
      block
        [line (tracked.fieldName ++ " = " ++ newBox tracked.type "value" ++ ";"),
          line "return this;"] ""]

/-- The body of a method that appends: it makes a new collection of the present items and the
given ones. -/
def addToBody (tracked : TrackedMember) (collection : Collection) : List Layout :=
  let field := tracked.fieldName
  let assigned := field ++ ".HasValue && " ++ field ++ ".Value.Object != null"
  match collection with
  | .array element =>
    [line ("var current = " ++ assigned ++ " ? " ++ field ++ ".Value.Object : System.Array.Empty<" ++
        element.display ++ ">();"),
      line (field ++ " = " ++ newBox tracked.type "current.Concat(items).ToArray()" ++ ";"),
      line "return this;"]
  | _ =>
    let append := if collection.isMap then "collection[item.Key] = item.Value;"
      else "collection.Add(item);"
    [line ("var collection = new " ++ (collection.backingType tracked.type.bare).display ++ "();"),
      line ("if (" ++ assigned ++ ")"),
      block
        [line ("foreach (var item in " ++ field ++ ".Value.Object)"), block [line append] ""] "",
      line "foreach (var item in items)",
      block [line append] "",
      line (field ++ " = " ++ newBox tracked.type "collection" ++ ";"),
      line "return this;"]

/-- The call of the entity's constructor, one argument on each line. -/
def callLayout (entityType : String) (arguments : List String) (terminator : String) :
    List Layout :=
  match arguments.reverse with
  | [] => [line ("var result = new " ++ entityType ++ "()" ++ terminator)]
  | last :: others =>
    [line ("var result = new " ++ entityType ++ "("),
      indented
        (others.reverse.map (fun argument => line (argument ++ ",")) ++
          [line (last ++ ")" ++ terminator)])]

/-- The assignment of an unreachable property. -/
def unreachableLayout (config : Configuration) (tracked : TrackedMember) : List Layout :=
  let assign (value : String) : Layout :=
    line (names.setUnreachable ++ "(result, \"" ++ tracked.member.name ++ "\", " ++ value ++ ");")
  if tracked.mockable then [assign (mockedText config tracked.fieldName)]
  else
    [line ("if (" ++ tracked.fieldName ++ ".HasValue)"),
      block [assign (tracked.fieldName ++ ".Value.Object")] ""]

/-- The body of the method that builds. -/
def buildBody (entityType : String) (config : Configuration) (method : BuildMethod) :
    List Layout :=
  let arguments := method.arguments.map (BuildValue.text config)
  let created :=
    if method.initializers.isEmpty then callLayout entityType arguments ";"
    else
      callLayout entityType arguments "" ++
        [block
          (method.initializers.map fun initializer =>
            line (initializer.property ++ " = " ++ initializer.value.text config ++ ","))
          ";"]
  created ++ method.unreachable.flatMap (unreachableLayout config) ++
    [line (names.postBuild ++ "(result);"), line "return result;"]

/-- The method that builds in one step: a call of the constructor with optional arguments. -/
def buildDefaultLayout (entityType : String) (parameters : List Member) : List Layout :=
  let declarations := parameters.map fun parameter =>
    parameter.type.display ++ " " ++ escapeIdentifier parameter.name ++ " = default(" ++
      parameter.type.display ++ ")"
  let arguments := parameters.map fun parameter => escapeIdentifier parameter.name
  [line ("public static " ++ entityType ++ " " ++ names.buildDefault ++ "(" ++
      ", ".intercalate declarations ++ ")"),
    block [line ("return new " ++ entityType ++ "(" ++ ", ".intercalate arguments ++ ");")] ""]

/-- The method that assigns a property by reflection: through its setter, whoever may call it, or
else through the field that the compiler makes for it in the class that declares it. -/
def setUnreachableLayout : List Layout :=
  let flags := "System.Reflection.BindingFlags.Instance | " ++
    "System.Reflection.BindingFlags.Public | System.Reflection.BindingFlags.NonPublic"
  [line ("private static void " ++ names.setUnreachable ++
      "(object target, string name, object value)"),
    block
      [line "var type = target.GetType();",
        line ("var property = type.GetProperty(name, " ++ flags ++ ");"),
        line "if (property != null && property.CanWrite)",
        block [line "property.SetValue(target, value);", line "return;"] "",
        line "for (var current = type; current != null; current = current.BaseType)",
        block
          [line ("var field = current.GetField(\"<\" + name + \">k__BackingField\", " ++ flags ++
              ");"),
            line "if (field != null)",
            block [line "field.SetValue(target, value);", line "return;"] ""] ""] ""]

/-- The declaration of a member. -/
def layout (c : GeneratedClass) : GeneratedMember → List Layout
  | .constructor initial setup =>
    [line ("public " ++ c.name ++ "()"),
      block
        (initial.map (fun (tracked, value) =>
            line (tracked.fieldName ++ " = " ++ tracked.initialText c.config value ++ ";")) ++
          setup.toList.map line ++ [line (names.preBuild ++ "();")]) ""]
  | .setter tracked => setterLayout c.builderType c.config tracked
  | .addTo tracked collection =>
    [line ("public " ++ c.builderType ++ " " ++ tracked.addToName ++ "(params " ++
        (TypeRef.arrayOf collection.itemType).display ++ " items)"),
      block (addToBody tracked collection) ""]
  | .build method =>
    [line ("public " ++ c.entityType ++ " " ++ names.build ++ "()"),
      block (buildBody c.entityType c.config method) ""]
  | .buildMany =>
    [line ("public System.Collections.Generic.IEnumerable<" ++ c.entityType ++ "> " ++
        names.buildMany ++ "(int count = 3)"),
      block [line ("return Enumerable.Range(0, count).Select(_ => " ++ names.build ++ "());")] ""]
  | .buildDefault parameters => buildDefaultLayout c.entityType parameters
  | .factory name =>
    [line ("public static " ++ c.builderType ++ " " ++ name ++ "()"),
      block [line ("return new " ++ c.builderType ++ "();")] ""]
  | .creator =>
    [line ("public static " ++ c.builderType ++ " " ++ names.creator ++ " => new " ++
        c.builderType ++ "();")]
  | .implicitCast =>
    [line ("public static implicit operator " ++ c.entityType ++ "(" ++ c.builderType ++
        " builder)"),
      block [line ("return builder." ++ names.build ++ "();")] ""]
  | .preBuild => [line ("public void " ++ names.preBuild ++ "()"), block [] ""]
  | .postBuild =>
    [line ("public void " ++ names.postBuild ++ "(" ++ c.entityType ++ " entity)"), block [] ""]
  | .setUnreachable => setUnreachableLayout

end GeneratedMember

namespace GeneratedClass

/-- The declaration of the class: fields first, then the other members one by one. -/
def classLayout (c : GeneratedClass) : List Layout :=
  [line ("partial class " ++ c.builderType),
    indented (c.constraints.map line),
    block
      (Layout.separate
        (c.fields.map (GeneratedField.layout c.config) :: c.members.map (GeneratedMember.layout c)))
      ""]

/-- The file: directives, imports, and the class in its namespace. -/
def layout (c : GeneratedClass) : List Layout :=
  [line "// <auto-generated/>", line "#pragma warning disable CS1591"] ++
    (match c.config.builder.nullableStrategy with
      | .enabled => [line "#nullable enable"]
      | .disabled => [line "#nullable disable"]
      | .default => []) ++
    c.imports.map (fun name => line ("using " ++ name ++ ";")) ++
    [blank] ++
    (if c.qualifier.isEmpty then c.classLayout
      else [line ("namespace " ++ c.qualifier), block c.classLayout ""]) ++
    (if c.config.builder.nullableStrategy = .default then [] else [line "#nullable restore"])

/-- The text of the file. -/
def sourceText (c : GeneratedClass) : String :=
  Layout.render c.layout

end GeneratedClass

end FluentGen
