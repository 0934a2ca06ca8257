import FluentGen.Proofs.ClosedGraphs
/-!
# References passed over

The walk over the interface graph knows what it has visited by the texts alone, and passes over a
reference whose text has come up. Texts tell well-spelled references apart but for kinds, and a walk
that starts at one meets no others, so what it passes over is something that it has visited.

## Main definitions
* `Compilation.passedOverFrom`: the references that the walk passes over.
* `Compilation.PassesOverKnown`: whether nothing new is passed over, nor left out otherwise.

## Main statements
* `TypeRef.WellSpelled.substitute`: references are well-spelled if what is put into them is.
* `Compilation.perm_visitedFrom_append`: what the walk comes to is either visited or passed over.
* `Compilation.display_eq_iff_unkinded_eq`: texts tell references apart, so a walk by texts drops none.
-/
namespace FluentGen

theorem TypeRef.WellSpelled.substitute {type : TypeRef} {bindings : Bindings}
    (spelled : type.WellSpelled)
    (bound : ∀ name type, bindings.lookup name = some type → type.WellSpelled) :
    (type.substitute bindings).WellSpelled := by
  induction type using induction_arguments with
  | step type ih =>
    obtain ⟨here, onArguments⟩ := everywhere_iff.mp spelled
    by_cases parameter : type.kind = .typeParameter
    · rw [substitute_of_eq parameter]
      cases found : bindings.lookup type.name with
      | none => exact spelled
      | some replaced => exact (bound _ _ found).withNullable (fun _ _ same => same) _
    · rw [substitute_of_ne parameter]
      refine everywhere_iff.mpr ⟨?_, List.forall_mem_map.mpr fun argument h =>
        ih argument h (onArguments argument h)⟩
      unfold IsSpelled at here ⊢
      rwa [List.length_map]

namespace Compilation

/-- The references that a walk from the pending ones passes over, as their texts are in `seen` by
then. -/
def passedOverFrom (model : Compilation) : Nat → List String → List TypeRef → List TypeRef
  | 0, _, _ => []
  | _ + 1, _, [] => []
  | bound + 1, seen, current :: pending =>
    if current.display ∈ seen then current :: passedOverFrom model bound seen pending
    else
      passedOverFrom model bound (current.display :: seen) (model.supertypes current ++ pending)

/-- The references that the walk from a reference visits. -/
def visited (model : Compilation) (reference : TypeRef) : List TypeRef :=
  model.visitedFrom model.walkLimit [] [reference]

/-- The references that the walk from a reference passes over. -/
def passedOver (model : Compilation) (reference : TypeRef) : List TypeRef :=
  model.passedOverFrom model.walkLimit [] [reference]

/-- Whether all that is declared extends well-spelled references. -/
def ExtendsWellSpelled (model : Compilation) : Prop :=
  ∀ declaration ∈ model.types, ∀ r ∈ declaration.extended, r.WellSpelled

instance (model : Compilation) : Decidable model.ExtendsWellSpelled :=
  inferInstanceAs (Decidable (∀ declaration ∈ model.types, ∀ r ∈ declaration.extended, _))

/-- Whether the walk from a reference passes over nothing but what it visits, up to kinds. -/
structure PassesOverKnown (model : Compilation) (reference : TypeRef) : Prop where
  /-- Of what is visited, the interfaces are found. -/
  interfaces : model.interfaces reference = (model.visited reference).filter (·.isInterface)
  known : ∀ r ∈ model.passedOver reference, ∃ s ∈ model.visited reference, s.unkinded = r.unkinded
  /-- Where the walk comes to an end, all that it comes to is visited or passed over, each time it
  comes to it. -/
  complete : model.HasFiniteGraph reference →
    (model.visited reference ++ model.passedOver reference).Perm
      (reference :: (model.visited reference).flatMap model.supertypes)

variable {model : Compilation} {reference : TypeRef}

/-! ## What is passed over -/

/-- What holds of the pending references and is handed on to what they extend holds of all that is
passed over. -/
theorem forall_mem_passedOverFrom {P : TypeRef → Prop}
    (step : ∀ r, P r → ∀ s ∈ model.supertypes r, P s) (bound : Nat) (seen : List String)
    (pending : List TypeRef) (start : ∀ r ∈ pending, P r) :
    ∀ r ∈ model.passedOverFrom bound seen pending, P r := by
  induction bound generalizing seen pending with
  | zero => simp [passedOverFrom]
  | succ bound ih =>
    cases pending with
    | nil => simp [passedOverFrom]
    | cons current pending =>
      obtain ⟨here, others⟩ := List.forall_mem_cons.mp start
      unfold passedOverFrom
      split
      · exact List.forall_mem_cons.mpr ⟨here, ih seen pending others⟩
      · exact ih _ _ (List.forall_mem_append.mpr ⟨step current here, others⟩)

/-- What is passed over has the text of something visited before it. -/
theorem exists_display_eq_of_mem_passedOverFrom (bound : Nat) (before pending : List TypeRef) :
    ∀ r ∈ model.passedOverFrom bound (before.map TypeRef.display) pending,
      ∃ s ∈ before ++ model.visitedFrom bound (before.map TypeRef.display) pending,
        s.display = r.display := by
  induction bound generalizing before pending with
  | zero => simp [passedOverFrom]
  | succ bound ih =>
    cases pending with
    | nil => simp [passedOverFrom]
    | cons current pending =>
      by_cases seen : current.display ∈ before.map TypeRef.display
      · simp only [passedOverFrom, visitedFrom, if_pos seen]
        obtain ⟨s, hs, same⟩ := List.mem_map.mp seen
        exact List.forall_mem_cons.mpr ⟨⟨s, List.mem_append_left _ hs, same⟩, ih before pending⟩
      · simp only [passedOverFrom, visitedFrom, if_neg seen]
        intro r hr
        obtain ⟨s, hs, same⟩ := ih (current :: before) (model.supertypes current ++ pending) r hr
        refine ⟨s, ?_, same⟩
        exact List.perm_middle.symm.mem_iff.mp hs

/-- Where a walk comes to an end, what was pending and what the visited references extend has been
visited or passed over. -/
theorem perm_visitedFrom_append (bound : Nat) (seen : List String) (pending : List TypeRef)
    (ends : model.endsFrom bound seen pending = true) :
    (model.visitedFrom bound seen pending ++ model.passedOverFrom bound seen pending).Perm
      (pending ++ (model.visitedFrom bound seen pending).flatMap model.supertypes) := by
  induction bound generalizing seen pending with
  | zero =>
    cases pending with
    | nil => exact .refl _
    | cons current pending => simp [endsFrom] at ends
  | succ bound ih =>
    cases pending with
    | nil => exact .refl _
    | cons current pending =>
      by_cases known : current.display ∈ seen
      · simp only [endsFrom, visitedFrom, passedOverFrom, if_pos known] at ends ⊢
        exact List.perm_middle.trans ((ih seen pending ends).cons current)
      · simp only [endsFrom, visitedFrom, passedOverFrom, if_neg known] at ends ⊢
        have rest := ih _ _ ends
        generalize model.visitedFrom bound _ _ = others at rest ⊢
        -- What the visited reference extends was pending in front of the rest.
        have moved : (model.supertypes current ++ pending ++ others.flatMap model.supertypes).Perm
            (pending ++ (current :: others).flatMap model.supertypes) := by
          rw [List.flatMap_cons, ← List.append_assoc]
          exact List.perm_append_comm.append_right _
        exact (rest.trans moved).cons current

/-! ## Well-spelled references -/

/-- A walk that starts at a well-spelled reference meets no others. -/
theorem ExtendsWellSpelled.supertypes (extends' : model.ExtendsWellSpelled) :
    ∀ r : TypeRef, r.WellSpelled → ∀ s ∈ model.supertypes r, s.WellSpelled := by
  intro r spelled s hs
  rw [Compilation.supertypes] at hs
  cases found : model.lookup? r with
  | none => simp [found] at hs
  | some declaration =>
    rw [found] at hs
    obtain ⟨extended, hextended, rfl⟩ := List.mem_map.mp hs
    have proper : extended.WellSpelled := by
      rcases List.mem_append.mp (mem_of_lookup? found) with declared | known
      · exact extends' declaration declared extended hextended
      · have extendsProperly := extendsProperly_of_mem_definitions declaration known
        exact (extendsProperly.extended extended hextended).2.1
    refine proper.substitute fun name bound h => ?_
    exact (TypeRef.everywhere_iff.mp spelled).2 bound (NamedType.mem_arguments_of_lookup h)

theorem passesOverKnown (extends' : model.ExtendsWellSpelled) (spelled : reference.WellSpelled) :
    model.PassesOverKnown reference := by
  have start := List.forall_mem_singleton.mpr spelled
  constructor
  case interfaces => exact interfacesFrom_eq_filter _ _ _
  case known =>
    intro r hr
    obtain ⟨s, hs, same⟩ := exists_display_eq_of_mem_passedOverFrom _ [] [reference] r hr
    have spelled := forall_mem_passedOverFrom extends'.supertypes _ _ _ start r hr
    have spelled' := forall_mem_visitedFrom extends'.supertypes _ _ _ start s hs
    exact ⟨s, hs, TypeRef.unkinded_eq_of_display_eq spelled' spelled same⟩
  case complete => exact perm_visitedFrom_append _ _ _

/-- Well-spelled references have one text if and only if they are the same but for the kinds of what
are no arrays, so a walk that goes by texts passes over no other reference than it has visited. -/
theorem display_eq_iff_unkinded_eq :
    (∀ a b : TypeRef, a.WellSpelled → b.WellSpelled →
      (a.display = b.display ↔ a.unkinded = b.unkinded)) ∧
    ∀ (model : Compilation) (reference : TypeRef), model.ExtendsWellSpelled →
      reference.WellSpelled → model.PassesOverKnown reference :=
  ⟨fun _ _ spelled spelled' => ⟨TypeRef.unkinded_eq_of_display_eq spelled spelled',
    TypeRef.display_eq_of_unkinded_eq⟩, fun _ _ => passesOverKnown⟩

/-- Arrays of annotated items and annotated arrays of items have different texts; and where two
interfaces extend each other, the walk passes over the first when it comes back to it. -/
theorem display_eq_iff_unkinded_eq_cyclic :
    let order := TypeRef.named "Shop" "Order" .classType
    let annotatedItems := TypeRef.arrayOf (TypeRef.named "Shop" "Item" .structType).asNullable
    let annotatedArray := (TypeRef.arrayOf (.named "Shop" "Item" .classType)).asNullable
    (annotatedItems.WellSpelled ∧ annotatedArray.WellSpelled ∧
      annotatedItems.display ≠ annotatedArray.display) ∧
    cyclic.ExtendsWellSpelled ∧ order.WellSpelled ∧ cyclic.PassesOverKnown order := by
  intro order annotatedItems annotatedArray
  have items : annotatedItems.WellSpelled := by decide
  have array : annotatedArray.WellSpelled := by decide
  have extends' : cyclic.ExtendsWellSpelled := by decide
  have spelled : order.WellSpelled := by decide
  have different : annotatedItems.unkinded ≠ annotatedArray.unkinded := by decide
  refine ⟨⟨items, array, ?_⟩, extends', spelled, ?_⟩
  · exact mt (display_eq_iff_unkinded_eq.1 _ _ items array).mp different
  · exact display_eq_iff_unkinded_eq.2 cyclic order extends' spelled

end Compilation

end FluentGen
