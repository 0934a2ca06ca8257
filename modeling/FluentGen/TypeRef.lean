/-!
# References to types

A reference to a type as member signatures write it: a name, the namespace it is qualified with,
its arguments and a nullable annotation. Arrays hold their element type as the only argument.

## Main definitions
* `TypeRef`: a reference, with constructors `named`, `generic`, `keyword`, `typeParameter`,
  `arrayOf`.
* `TypeRef.render`: the text of a reference, qualified (`display`) or not (`simpleDisplay`).
* `definitionKey`, `TypeRef.key`: what finds the declaration behind a reference.
* `TypeRef.substitute`: replaces type parameters.
* `TypeRef.sameType`, `TypeRef.sameTypeName`: equality up to annotations, or up to spelling.
-/
namespace FluentGen

/-- The shape of a type. -/
inductive TypeKind where
  | classType | structType | interfaceType | enumType | delegateType | typeParameter | arrayType
  deriving DecidableEq, Repr, Inhabited

/-- A reference to a type. -/
structure TypeRef where
  name : String
  /-- The namespace in front of the name, if there is one. -/
  qualifier : Option String
  kind : TypeKind
  /-- The type arguments, or the element type of an array. -/
  arguments : List TypeRef
  /-- Whether the reference ends in a question mark. -/
  nullable : Bool
  deriving Repr, Inhabited

/-- Whether names are rendered with their namespaces. -/
inductive NameStyle where
  | full | simple
  deriving DecidableEq, Repr

/-- The types that type parameters stand for; the first entry of a name counts. -/
abbrev Bindings := List (String × TypeRef)

/-- The key of a definition: the qualified name, with a backquote and the number of type
parameters when there are any. -/
def definitionKey (qualifier name : String) (arity : Nat) : String :=
  (if qualifier.isEmpty then "" else qualifier ++ ".") ++ name ++
    (if arity = 0 then "" else "`" ++ toString arity)

namespace TypeRef

mutual
/-- Decides equality, together with `decEqAll` for lists of references. -/
def decEq : (a b : TypeRef) → Decidable (a = b)
  | ⟨name, qualifier, kind, arguments, nullable⟩, ⟨name', qualifier', kind', arguments', nullable'⟩ =>
    if h : name = name' ∧ qualifier = qualifier' ∧ kind = kind' ∧ nullable = nullable' then
      match decEqAll arguments arguments' with
      | .isTrue h' => .isTrue (by simp [h, h'])
      | .isFalse h' => .isFalse (by simp [h'])
    else .isFalse (by simpa using fun a b c _ d => h ⟨a, b, c, d⟩)
/-- Decides equality of two lists of references. -/
def decEqAll : (as bs : List TypeRef) → Decidable (as = bs)
  | [], [] => .isTrue rfl
  | [], _ :: _ => .isFalse (by simp)
  | _ :: _, [] => .isFalse (by simp)
  | a :: as, b :: bs =>
    match decEq a b with
    | .isTrue h =>
      match decEqAll as bs with
      | .isTrue h' => .isTrue (by simp [h, h'])
      | .isFalse h' => .isFalse (by simp [h'])
    | .isFalse h => .isFalse (by simp [h])
end

instance : DecidableEq TypeRef := decEq

/-- A generic type; an empty qualifier stands for the global namespace. -/
def generic (qualifier name : String) (kind : TypeKind) (arguments : List TypeRef) : TypeRef :=
  ⟨name, if qualifier.isEmpty then none else some qualifier, kind, arguments, false⟩

/-- A type without arguments. -/
def named (qualifier name : String) (kind : TypeKind) : TypeRef :=
  generic qualifier name kind []

/-- A type with a keyword for a name, such as `int`; `string`, `object` and `dynamic` are classes. -/
def keyword (name : String) : TypeRef :=
  named "" name (if name ∈ ["string", "object", "dynamic"] then .classType else .structType)

/-- The type parameter `name`. -/
def typeParameter (name : String) : TypeRef :=
  named "" name .typeParameter

/-- The array of `element`. -/
def arrayOf (element : TypeRef) : TypeRef :=
  ⟨"", none, .arrayType, [element], false⟩

/-- The reference with a nullable annotation. -/
def asNullable (type : TypeRef) : TypeRef :=
  { type with nullable := true }

/-- The reference without its own nullable annotation. -/
def bare (type : TypeRef) : TypeRef :=
  { type with nullable := false }

/-- Whether the reference is to an interface. -/
def isInterface (type : TypeRef) : Bool :=
  type.kind == .interfaceType

/-- Whether the reference is to the string type, as a keyword or as `System.String`. -/
def isString (type : TypeRef) : Bool :=
  match type.qualifier with
  | none => type.name == "string"
  | some qualifier => qualifier == "System" && type.name == "String"

/-- The element type of an array. -/
def elementType? (type : TypeRef) : Option TypeRef :=
  if type.kind = .arrayType then type.arguments.head? else none

/-- The key of the definition that the reference names. -/
def key (type : TypeRef) : String :=
  definitionKey (type.qualifier.getD "") type.name type.arguments.length

mutual
/-- The text of a reference: an array is its element and a pair of brackets, any other type its
name with its arguments in angle brackets. -/
def render (style : NameStyle) : TypeRef → String
  | ⟨_, _, .arrayType, element :: _, nullable⟩ =>
    element.render style ++ "[]" ++ (if nullable then "?" else "")
  | ⟨name, qualifier, _, arguments, nullable⟩ =>
    (match style, qualifier with
      | .full, some qualifier => qualifier ++ "."
      | _, _ => "") ++ name ++
      (match arguments with
        | [] => ""
        | first :: others => "<" ++ first.render style ++ renderOthers style others ++ ">") ++
      (if nullable then "?" else "")
/-- The arguments after the first, each after a comma and a space. -/
def renderOthers (style : NameStyle) : List TypeRef → String
  | [] => ""
  | type :: types => ", " ++ type.render style ++ renderOthers style types
end

/-- The text with namespaces. -/
def display (type : TypeRef) : String :=
  type.render .full

/-- The text without namespaces. -/
def simpleDisplay (type : TypeRef) : String :=
  type.render .simple

mutual
/-- Replaces type parameters by what they are bound to; others stay as they are. The result is
nullable if the parameter or its replacement is. -/
def substitute (bindings : Bindings) : TypeRef → TypeRef
  | ⟨name, qualifier, kind, arguments, nullable⟩ =>
    if kind = .typeParameter then
      match bindings.lookup name with
      | some bound => { bound with nullable := bound.nullable || nullable }
      | none => ⟨name, qualifier, kind, arguments, nullable⟩
    else ⟨name, qualifier, kind, substituteAll bindings arguments, nullable⟩
/-- Replaces type parameters in every reference of a list. -/
def substituteAll (bindings : Bindings) : List TypeRef → List TypeRef
  | [] => []
  | type :: types => type.substitute bindings :: substituteAll bindings types
end

@[simp]
theorem substituteAll_eq_map (bindings : Bindings) (types : List TypeRef) :
    substituteAll bindings types = types.map (substitute bindings) := by
  induction types with
  | nil => rfl
  | cons _ _ ih => simp [substituteAll, ih]

mutual
/-- Adds the namespaces of a reference and its arguments to `seen`, each once. -/
def addNamespaces (seen : List String) : TypeRef → List String
  | ⟨_, qualifier, _, arguments, _⟩ =>
    addAllNamespaces
      (match qualifier with
        | some qualifier => if qualifier ∈ seen then seen else seen ++ [qualifier]
        | none => seen)
      arguments
/-- Adds the namespaces of every reference of a list. -/
def addAllNamespaces (seen : List String) : List TypeRef → List String
  | [] => seen
  | type :: types => addAllNamespaces (type.addNamespaces seen) types
end

mutual
/-- Equality up to nullable annotations at every depth. -/
def sameType : TypeRef → TypeRef → Bool
  | ⟨name, qualifier, kind, arguments, _⟩, ⟨name', qualifier', kind', arguments', _⟩ =>
    name == name' && qualifier == qualifier' && kind == kind' && sameTypes arguments arguments'
/-- Pairwise equality up to nullable annotations. -/
def sameTypes : List TypeRef → List TypeRef → Bool
  | [], [] => true
  | type :: types, type' :: types' => type.sameType type' && sameTypes types types'
  | _, _ => false
end

/-- Whether two references are the same type or are spelled alike, with or without namespaces. -/
def sameTypeName (a b : TypeRef) : Bool :=
  a.sameType b || a.simpleDisplay == b.simpleDisplay || a.display == b.display

example : (generic "System.Collections.Generic" "List" .classType [keyword "string"]).display =
    "System.Collections.Generic.List<string>" := by decide

example : (arrayOf (named "Shop" "Item" .classType)).asNullable.simpleDisplay = "Item[]?" := by
  decide

end TypeRef

end FluentGen
