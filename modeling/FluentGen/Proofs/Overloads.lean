import FluentGen.Proofs.HandWritten
import FluentGen.Proofs.Signatures
/-!
# Hand-written overloads

A generated method is left out where the author declared one like it. What counts as such a method is
said here in terms of the declared methods and their parameters.

## Main definitions
* `TypeRef.unannotated`, `TypeRef.SameName`: references that are the same but for annotations, or that
  are spelled alike.
* `NamedType.TakesOne`: whether a method of a name has one parameter of some kind.
* `NamedType.HasSignature`: whether a method has the name and the parameter types of a signature.

## Main statements
* `NamedType.hasOverload_iff`, `NamedType.hasDelegateOverload_iff`: when a setter is hand-written.
-/
namespace FluentGen

namespace TypeRef

mutual
/-- The reference without annotations at any depth. -/
def unannotated : TypeRef → TypeRef
  | ⟨name, qualifier, kind, arguments, _⟩ =>
    ⟨name, qualifier, kind, unannotatedAll arguments, false⟩
/-- The references of a list without annotations at any depth. -/
def unannotatedAll : List TypeRef → List TypeRef
  | [] => []
  | type :: types => type.unannotated :: unannotatedAll types
end

mutual
theorem sameType_iff : ∀ a b : TypeRef, a.sameType b = true ↔ a.unannotated = b.unannotated
  | ⟨name, qualifier, kind, arguments, _⟩, ⟨name', qualifier', kind', arguments', _⟩ => by
    simp [sameType, unannotated, sameTypes_iff arguments arguments', and_assoc]
theorem sameTypes_iff : ∀ as bs : List TypeRef,
    sameTypes as bs = true ↔ unannotatedAll as = unannotatedAll bs
  | [], [] => by simp [sameTypes, unannotatedAll]
  | [], _ :: _ | _ :: _, [] => by simp [sameTypes, unannotatedAll]
  | a :: as, b :: bs => by
    simp [sameTypes, unannotatedAll, sameType_iff a b, sameTypes_iff as bs]
end

/-- Whether two references have the same name: they are equal up to annotations or are spelled
alike, with or without namespaces. -/
def SameName (a b : TypeRef) : Prop :=
  a.unannotated = b.unannotated ∨ a.simpleDisplay = b.simpleDisplay ∨ a.display = b.display

instance (a b : TypeRef) : Decidable (a.SameName b) :=
  inferInstanceAs (Decidable (_ ∨ _))

theorem sameTypeName_iff {a b : TypeRef} : a.sameTypeName b = true ↔ a.SameName b := by
  simp [sameTypeName, SameName, sameType_iff, or_assoc]

/-- Whether a reference passes for one to a delegate: by its kind, or by the name of the
framework's. -/
def PassesForDelegate (type : TypeRef) : Prop :=
  type.kind = .delegateType ∨ type.name = "Action"

end TypeRef

namespace NamedType

variable {builder : NamedType} {name : String}

/-- Whether a hand-written method has the name and one parameter, of a type that `accepts` holds
of. -/
def TakesOne (builder : NamedType) (name : String) (accepts : TypeRef → Prop) : Prop :=
  ∃ method ∈ builder.methods, method.name = name ∧
    ∃ parameter, method.parameters = [parameter] ∧ accepts parameter.type

/-- Whether a hand-written method, static or not, has the name and the parameter types of a
signature, given when a hand-written type is the same as a generated one. -/
def HasSignature (same : TypeRef → ParameterType → Prop) (builder : NamedType)
    (signature : Signature) : Prop :=
  ∃ method ∈ builder.methods, method.name = signature.name ∧
    List.Forall₂ (fun parameter type => same parameter.type type) method.parameters
      signature.parameters

theorem sameParameters_singleton_iff {parameters : List Parameter} {type : TypeRef} :
    sameParameters parameters [type] = true ↔
      ∃ parameter, parameters = [parameter] ∧ parameter.type.SameName type := by
  match parameters with
  | [] | [parameter] | _ :: _ :: _ => simp [sameParameters, TypeRef.sameTypeName_iff]

theorem hasOverload_iff {type : TypeRef} :
    builder.hasOverload name [type] = true ↔ builder.TakesOne name (·.SameName type) := by
  simp only [hasOverload, List.any_eq_true, mem_overloads_iff, sameParameters_singleton_iff,
    TakesOne, and_assoc]

theorem hasDelegateOverload_iff :
    builder.hasDelegateOverload name = true ↔ builder.TakesOne name TypeRef.PassesForDelegate := by
  simp only [hasDelegateOverload, List.any_eq_true, mem_overloads_iff, TakesOne, and_assoc]
  refine exists_congr fun method => and_congr_right fun _ => and_congr_right fun _ => ?_
  match method.parameters with
  | [] | [parameter] | _ :: _ :: _ => simp [TypeRef.PassesForDelegate]

end NamedType

end FluentGen
