import FluentGen.Declaration
import FluentGen.Text.Quoted
/-!
# Why a builder is not generated

## Main definitions
* `AttributeValue.describe`: an attribute argument as messages show it.
* `OptionProblem`: what is wrong with an option.
* `GenerationError`: what stops the generation of one builder, with its message.
-/
namespace FluentGen

/-- The name of a kind in messages. -/
def TypeKind.describe : TypeKind → String
  | .classType => "Class"
  | .structType => "Struct"
  | .interfaceType => "Interface"
  | .enumType => "Enum"
  | .delegateType => "Delegate"
  | .typeParameter => "TypeParameter"
  | .arrayType => "Array"

mutual
/-- A reference with all its parts, as messages show it. -/
def TypeRef.describe : TypeRef → String
  | ⟨name, qualifier, kind, arguments, nullable⟩ =>
    "TypeRef \x7b name: " ++ Text.quote name ++ ", namespace: " ++
      (match qualifier with
        | some qualifier => "Some(" ++ Text.quote qualifier ++ ")"
        | none => "None") ++
      ", kind: " ++ kind.describe ++ ", type_arguments: [" ++
      (match arguments with
        | [] => ""
        | first :: others => first.describe ++ TypeRef.describeOthers others) ++
      "], nullable: " ++ toString nullable ++ " \x7d"
/-- The arguments after the first. -/
def TypeRef.describeOthers : List TypeRef → String
  | [] => ""
  | type :: types => ", " ++ type.describe ++ TypeRef.describeOthers types
end

/-- An attribute argument with its type, as messages show it. -/
def AttributeValue.describe : AttributeValue → String
  | .flag value => "Bool(" ++ toString value ++ ")"
  | .number value => "Int(" ++ toString value.toInt ++ ")"
  | .text value => "Str(" ++ Text.quote value ++ ")"
  | .type value => "Type(" ++ value.describe ++ ")"

/-- What is wrong with an option. -/
inductive OptionProblem where
  | expectedText (found : AttributeValue)
  | expectedFlag (found : AttributeValue)
  /-- No choice has the given number or name. -/
  | unsupported (found : AttributeValue)
  | emptyPrefix
  /-- The setters would have names that are no identifiers. -/
  | invalidPrefix (text : String)
  /-- The option may not be blank. -/
  | blank
  deriving DecidableEq, Repr

/-- The text of a problem. -/
def OptionProblem.message : OptionProblem → String
  | .expectedText found => "expected a string, found " ++ found.describe
  | .expectedFlag found => "expected a boolean, found " ++ found.describe
  | .unsupported found => "unsupported value " ++ found.describe
  | .emptyPrefix => "the setter prefix must not be empty"
  | .invalidPrefix text => "'" ++ text ++ "' is not a valid identifier prefix"
  | .blank => "a non-empty value is required"

/-- What stops the generation of one builder. -/
inductive GenerationError where
  | invalidOption (key : String) (problem : OptionProblem)
  /-- The built type is not declared. -/
  | unresolvedType (name : String)
  /-- The attribute does not name a type. -/
  | missingEntity (builder : String)
  /-- An earlier attribute of the same class already asks for a builder. -/
  | duplicateTarget (builder first : String)
  deriving DecidableEq, Repr

/-- The text of an error. -/
def GenerationError.message : GenerationError → String
  | .invalidOption key problem => "invalid configuration for '" ++ key ++ "': " ++ problem.message
  | .unresolvedType name => "type '" ++ name ++ "' is not declared in the compilation"
  | .missingEntity builder => "builder '" ++ builder ++ "' does not name the type it builds"
  | .duplicateTarget builder first =>
    "builder '" ++ builder ++ "' already generates a builder for '" ++ first ++ "'"

end FluentGen
