import FluentGen.Proofs.InterfaceSearch
import FluentGen.Proofs.Substitution
/-!
# Replaced type parameters

Where a reference has a type parameter that is bound, it has what the parameter is bound to after
substitution, and all else stays in its place. A type parameter is replaced as a whole, so what it is
applied to goes with it.

## Main definitions
* `TypeRef.partAt?`: the part of a reference at a path.
* `TypeRef.PassesNo`: paths that lead through no part of some kind.
* `Bindings.IsThen`: the bindings that do what two substitutions do one after the other.
* `TypeRef.ReplacesAtOnce`: all type parameters are replaced at once, and nothing else is changed.

## Main statements
* `TypeRef.partAt?_substitute`: substitution goes on in the place of each part.
* `TypeRef.replacesAtOnce`: substitution replaces all type parameters at once.
-/
namespace FluentGen

/-- Whether bindings do what substituting `first` and then `second` does. -/
def Bindings.IsThen (first second both : Bindings) : Prop :=
  ∀ name, both.lookup name =
    match first.lookup name with
    | some bound => some (bound.substitute second)
    | none => second.lookup name

theorem Bindings.isThen_andThen (first second : Bindings) :
    first.IsThen second (first.andThen second) := by
  intro name
  rw [lookup_andThen]
  cases first.lookup name with
  | none => rfl
  | some bound => rfl

namespace TypeRef

/-! ## Parts in their places -/

/-- The part at a path, which gives the position of an argument, then that of one of its own, and so
on. -/
def partAt? (type : TypeRef) : List Nat → Option TypeRef
  | [] => some type
  | i :: path => type.arguments[i]?.bind fun argument => argument.partAt? path

/-- Whether none of the parts that a path leads through before its end has a property. -/
def PassesNo (P : TypeRef → Prop) (type : TypeRef) : List Nat → Prop
  | [] => True
  | i :: path => ¬ P type ∧ ∀ argument ∈ type.arguments[i]?, argument.PassesNo P path

/-- Whether a part is a type parameter. -/
def IsParameter (part : TypeRef) : Prop :=
  part.kind = .typeParameter

/-- Whether a part is a type parameter that bindings replace. -/
def IsReplaced (bindings : Bindings) (part : TypeRef) : Prop :=
  part.kind = .typeParameter ∧ bindings.lookup part.name ≠ none

/-- Whether the part at a path stays annotated if it is so. -/
def KeepsAnnotationAt (bindings : Bindings) (type : TypeRef) (path : List Nat) : Prop :=
  ∀ part, type.partAt? path = some part → part.nullable = true →
    ∃ replaced, (type.substitute bindings).partAt? path = some replaced ∧ replaced.nullable = true

/-- The bindings that exchange two type parameters. -/
def exchange (a b : String) : Bindings :=
  [(a, typeParameter b), (b, typeParameter a)]

/-- Whether substitution replaces all type parameters of a reference at once and changes nothing
else. -/
structure ReplacesAtOnce (type : TypeRef) : Prop where
  /-- Two substitutions come to one. -/
  composes : ∀ first second : Bindings, (∃ both, first.IsThen second both) ∧
    ∀ both, first.IsThen second both →
      (type.substitute first).substitute second = type.substitute both
  /-- A bound type parameter is replaced in its place, and what is put there is not replaced again. -/
  replaces : ∀ (bindings : Bindings) path part bound, type.PassesNo IsParameter path →
    type.partAt? path = some part → part.kind = .typeParameter →
    bindings.lookup part.name = some bound →
      (type.substitute bindings).partAt? path =
        some { bound with nullable := bound.nullable || part.nullable }
  /-- Every other part is kept, with as many arguments. -/
  keeps : ∀ (bindings : Bindings) path part, type.PassesNo IsParameter path →
    type.partAt? path = some part →
    (part.kind = .typeParameter → bindings.lookup part.name = none) →
      ∃ arguments, arguments.length = part.arguments.length ∧
        (type.substitute bindings).partAt? path = some { part with arguments }
  /-- Exchanging two type parameters replaces one by the other. -/
  exchanges : ∀ a b path part, type.PassesNo IsParameter path → type.partAt? path = some part →
    part.kind = .typeParameter → part.name = a ∨ part.name = b →
      (type.substitute (exchange a b)).partAt? path =
        some { typeParameter (if part.name = a then b else a) with nullable := part.nullable }
  /-- Exchanging them again gives back what there was. -/
  restores : ∀ a b, type.PlainParameters →
    (type.substitute (exchange a b)).substitute (exchange a b) = type
  unchanged : ∀ bindings : Bindings,
    (type.Everywhere fun part => part.kind = .typeParameter → bindings.lookup part.name = none) →
      type.substitute bindings = type
  /-- Annotations stay, but for what a replaced type parameter is applied to. -/
  annotated : ∀ (bindings : Bindings) path, type.PassesNo (IsReplaced bindings) path →
    type.KeepsAnnotationAt bindings path

variable {type part bound : TypeRef} {bindings : Bindings} {path : List Nat}

/-- Substitution goes on in the place of each part. -/
theorem partAt?_substitute (outside : type.PassesNo IsParameter path) :
    (type.substitute bindings).partAt? path = (type.partAt? path).map (substitute bindings) := by
  induction path generalizing type with
  | nil => rfl
  | cons i path ih =>
    obtain ⟨other, onArguments⟩ := outside
    rw [substitute_of_ne other, partAt?, partAt?, List.getElem?_map]
    cases found : type.arguments[i]? with
    | none => rfl
    | some argument => exact ih (onArguments argument found)

theorem substitute_eq_self (unbound : type.Everywhere fun part =>
    part.kind = .typeParameter → bindings.lookup part.name = none) :
    type.substitute bindings = type :=
  calc type.substitute bindings
    _ = type.substitute [] := substitute_congr unbound
    _ = type := substitute_nil type

theorem nullable_substitute (annotated : type.nullable = true) :
    (type.substitute bindings).nullable = true := by
  by_cases parameter : type.kind = .typeParameter
  · rw [substitute_of_eq parameter]
    cases bindings.lookup type.name with
    | none => exact annotated
    | some bound => exact (congrArg (bound.nullable || ·) annotated).trans (Bool.or_true _)
  · rw [substitute_of_ne parameter]
    exact annotated

theorem keepsAnnotationAt (outside : type.PassesNo (IsReplaced bindings) path) :
    type.KeepsAnnotationAt bindings path := by
  induction path generalizing type with
  | nil =>
    intro part found annotated
    obtain rfl := Option.some.inj found
    exact ⟨_, rfl, nullable_substitute annotated⟩
  | cons i path ih =>
    intro part found annotated
    obtain ⟨kept, onArguments⟩ := outside
    by_cases parameter : type.kind = .typeParameter
    · -- It is not bound, so all of it stays, also what it is applied to.
      have unbound : bindings.lookup type.name = none := by_contra fun bound =>
        kept ⟨parameter, bound⟩
      rw [substitute_of_eq parameter, unbound]
      exact ⟨part, found, annotated⟩
    · obtain ⟨argument, hargument, found⟩ := Option.bind_eq_some_iff.mp found
      obtain ⟨replaced, here, stays⟩ := ih (onArguments argument hargument) part found annotated
      refine ⟨replaced, ?_, stays⟩
      rw [substitute_of_ne parameter, partAt?, List.getElem?_map, hargument]
      exact here

/-! ## Exchanges -/

theorem lookup_exchange (a b name : String) : (exchange a b).lookup name =
    if name = a then some (typeParameter b) else if name = b then some (typeParameter a)
    else none := by
  by_cases first : name = a
  · simp [exchange, first]
  · by_cases second : name = b
    · have apart : b ≠ a := second ▸ first
      simp [exchange, List.lookup_cons, second, beq_eq_false_iff_ne.mpr apart, apart]
    · simp [exchange, List.lookup_cons, beq_eq_false_iff_ne.mpr first,
        beq_eq_false_iff_ne.mpr second, first, second]

theorem substitute_exchange_left (a b : String) :
    (typeParameter a).substitute (exchange a b) = typeParameter b := by
  rw [substitute_typeParameter, lookup_exchange, if_pos rfl, Option.getD_some]

theorem substitute_exchange_right (a b : String) :
    (typeParameter b).substitute (exchange a b) = typeParameter a := by
  rw [substitute_typeParameter, lookup_exchange]
  by_cases same : b = a <;> simp [same]

/-- Exchanging type parameters twice binds none of them to anything but itself. -/
theorem lookup_exchange_andThen (a b name : String) :
    ((exchange a b).andThen (exchange a b)).lookup name =
      if name = a ∨ name = b then some (typeParameter name) else none := by
  rw [Bindings.lookup_andThen, lookup_exchange]
  by_cases first : name = a
  · simp [first, substitute_exchange_right]
  · by_cases second : name = b
    · simp [second, second ▸ first, substitute_exchange_left]
    · simp [first, second]

theorem substitute_exchange_exchange (a b : String) (plain : type.PlainParameters) :
    (type.substitute (exchange a b)).substitute (exchange a b) = type := by
  rw [substitute_substitute]
  refine Eq.trans ?_ type.substitute_nil
  refine (substitute_eq_substitute_iff plain).mpr fun part hpart parameter => ?_
  have bare := plain part hpart parameter
  rw [substitute_nil, substitute_of_eq parameter, lookup_exchange_andThen]
  split
  next bound found =>
    split at found
    · obtain rfl := Option.some.inj found
      rw [← bare]
      exact bare_withNullable part
    · cases found
  next => rfl

/-! ## All at once -/

/-- Substitution replaces all type parameters of a reference at once and changes nothing else. -/
theorem replacesAtOnce (type : TypeRef) : type.ReplacesAtOnce := by
  have inPlace {bindings : Bindings} {path : List Nat} {part : TypeRef}
      (outside : type.PassesNo IsParameter path) (found : type.partAt? path = some part) :
      (type.substitute bindings).partAt? path = some (part.substitute bindings) := by
    rw [partAt?_substitute outside, found, Option.map_some]
  constructor
  case composes =>
    intro first second
    refine ⟨⟨_, Bindings.isThen_andThen first second⟩, fun both isThen => ?_⟩
    rw [substitute_substitute]
    refine substitute_congr fun part _ _ => ?_
    rw [isThen, Bindings.isThen_andThen]
  case replaces =>
    intro bindings path part bound outside found parameter lookup
    rw [inPlace outside found, substitute_of_eq parameter, lookup]
  case keeps =>
    intro bindings path part outside found unbound
    rw [inPlace outside found]
    by_cases parameter : part.kind = .typeParameter
    · rw [substitute_of_eq parameter, unbound parameter]
      refine ⟨part.arguments, rfl, ?_⟩
      cases part
      rfl
    · rw [substitute_of_ne parameter]
      exact ⟨_, List.length_map _, rfl⟩
  case exchanges =>
    intro a b path part outside found parameter name
    rw [inPlace outside found, substitute_of_eq parameter, lookup_exchange]
    by_cases first : part.name = a
    · rw [if_pos first, if_pos first]
      rfl
    · rw [if_neg first, if_neg first, if_pos (name.resolve_left first)]
      rfl
  case restores => exact fun a b => substitute_exchange_exchange a b
  case unchanged => exact fun bindings => substitute_eq_self
  case annotated => exact fun bindings path => keepsAnnotationAt

/-- Where a type parameter is applied to an annotated one, the annotation goes when it is replaced,
and no other comes. -/
theorem not_keepsAnnotationAt_applied :
    let type : TypeRef :=
      ⟨"T", none, .typeParameter, [(typeParameter "U").asNullable], false⟩
    let bindings : Bindings := [("T", named "Shop" "List" .classType)]
    (¬ ∀ path, type.KeepsAnnotationAt bindings path) ∧
      ∀ part ∈ (type.substitute bindings).parts, part.nullable = false := by
  intro type bindings
  refine ⟨fun keeps => ?_, by decide⟩
  obtain ⟨replaced, found, -⟩ := keeps [0] _ rfl rfl
  cases found

end TypeRef

end FluentGen
