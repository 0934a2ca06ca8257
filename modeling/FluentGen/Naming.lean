import FluentGen.Text.CaseMapping
/-!
# Names

The identifiers that a builder derives from the names of members.

## Main definitions
* `pascalCase`, `camelCase`: a name with its first character in upper or lower case.
* `backingFieldName`: the private field behind a member.
* `reservedWords`, `escapeIdentifier`: words that name a parameter only after an `@`.
-/
namespace FluentGen

open Text

/-- Maps the first character and leaves the rest alone. -/
def mapFirst (f : Char → List Char) (name : String) : String :=
  match name.toList with
  | [] => ""
  | first :: rest => String.ofList (f first ++ rest)

/-- The name with its first character in upper case. -/
def pascalCase (name : String) : String :=
  mapFirst upperCase name

/-- The name with its first character in lower case. -/
def camelCase (name : String) : String :=
  mapFirst lowerCase name

/-- The private field behind the member `name`: an underscore and the name in camel case. -/
def backingFieldName (name : String) : String :=
  "_" ++ camelCase (pascalCase name)

/-- The words that C# reserves everywhere. -/
def reservedWords : List String :=
  ["abstract", "as", "base", "bool", "break", "byte", "case", "catch", "char", "checked", "class",
    "const", "continue", "decimal", "default", "delegate", "do", "double", "else", "enum", "event",
    "explicit", "extern", "false", "finally", "fixed", "float", "for", "foreach", "goto", "if",
    "implicit", "in", "int", "interface", "internal", "is", "lock", "long", "namespace", "new",
    "null", "object", "operator", "out", "override", "params", "private", "protected", "public",
    "readonly", "ref", "return", "sbyte", "sealed", "short", "sizeof", "stackalloc", "static",
    "string", "struct", "switch", "this", "throw", "true", "try", "typeof", "uint", "ulong",
    "unchecked", "unsafe", "ushort", "using", "virtual", "void", "volatile", "while"]

/-- The name as an identifier: a reserved word is written after an `@`. -/
def escapeIdentifier (name : String) : String :=
  if name ∈ reservedWords then "@" ++ name else name

example : backingFieldName "firstName" = "_firstName" := by decide

example : escapeIdentifier "class" = "@class" := by decide

end FluentGen
