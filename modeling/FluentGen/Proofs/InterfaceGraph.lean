import FluentGen.Inheritance
import Mathlib.Logic.Relation
/-!
# The graph of base classes and interfaces

What a reference is or implements is what can be reached from it by going to base classes and
interfaces. The walk finds nothing else; and it finds all of it if it comes to an end before its
bound and no two references on the way are spelled alike.

## Main definitions
* `Compilation.Reaches`: going to base classes and interfaces, any number of times.
* `Compilation.HasFiniteGraph`: the walk from a reference comes to an end.
* `Compilation.SpelledApart`: different references on the way have different texts.

## Main statements
* `Compilation.reaches_of_mem_interfaces`: only what is reached is found.
* `Compilation.mem_interfaces_iff`: all that is reached is found.
-/
namespace FluentGen

namespace Compilation

/-- Whether `target` is reached from `source` by going to base classes and interfaces. -/
def Reaches (model : Compilation) (source target : TypeRef) : Prop :=
  Relation.ReflTransGen (fun a b => b ∈ model.supertypes a) source target

/-- Whether a walk from the pending references visits all there is within `bound` steps. -/
def endsFrom (model : Compilation) : Nat → List String → List TypeRef → Bool
  | _, _, [] => true
  | 0, _, _ :: _ => false
  | bound + 1, seen, current :: pending =>
    if current.display ∈ seen then endsFrom model bound seen pending
    else endsFrom model bound (current.display :: seen) (model.supertypes current ++ pending)

/-- Whether the walk from a reference comes to an end. -/
def HasFiniteGraph (model : Compilation) (reference : TypeRef) : Prop :=
  model.endsFrom model.walkLimit [] [reference] = true

instance (model : Compilation) (reference : TypeRef) : Decidable (model.HasFiniteGraph reference) :=
  inferInstanceAs (Decidable (_ = true))

/-- Whether different references that are reached have different texts. -/
def SpelledApart (model : Compilation) (reference : TypeRef) : Prop :=
  ∀ {a b : TypeRef}, model.Reaches reference a → model.Reaches reference b →
    a.display = b.display → a = b

/-- The references that a walk visits, of which it keeps the interfaces. -/
def visitedFrom (model : Compilation) : Nat → List String → List TypeRef → List TypeRef
  | 0, _, _ => []
  | _ + 1, _, [] => []
  | bound + 1, seen, current :: pending =>
    if current.display ∈ seen then visitedFrom model bound seen pending
    else
      current ::
        visitedFrom model bound (current.display :: seen) (model.supertypes current ++ pending)

variable {model : Compilation} {reference : TypeRef}

theorem interfacesFrom_eq_filter (bound : Nat) (seen : List String) (pending : List TypeRef) :
    model.interfacesFrom bound seen pending =
      (model.visitedFrom bound seen pending).filter (·.isInterface) := by
  induction bound generalizing seen pending with
  | zero => rfl
  | succ bound ih =>
    cases pending with
    | nil => rfl
    | cons current pending =>
      simp only [interfacesFrom, visitedFrom, ih]
      split
      · rfl
      · rw [List.filter_cons]

/-! ## Nothing else is visited -/

/-- What holds of the pending references and is handed on to what they extend holds of all that is
visited. -/
theorem forall_mem_visitedFrom {P : TypeRef → Prop}
    (step : ∀ r, P r → ∀ s ∈ model.supertypes r, P s) (bound : Nat) (seen : List String)
    (pending : List TypeRef) (start : ∀ r ∈ pending, P r) :
    ∀ r ∈ model.visitedFrom bound seen pending, P r := by
  induction bound generalizing seen pending with
  | zero => simp [visitedFrom]
  | succ bound ih =>
    cases pending with
    | nil => simp [visitedFrom]
    | cons current pending =>
      obtain ⟨here, others⟩ := List.forall_mem_cons.mp start
      unfold visitedFrom
      split
      · exact ih seen pending others
      · refine List.forall_mem_cons.mpr ⟨here, ih _ _ ?_⟩
        exact List.forall_mem_append.mpr ⟨step current here, others⟩

theorem forall_mem_interfaces {P : TypeRef → Prop}
    (step : ∀ r, P r → ∀ s ∈ model.supertypes r, P s) (start : P reference) :
    ∀ r ∈ model.interfaces reference, P r := by
  intro r hr
  rw [interfaces, interfacesFrom_eq_filter] at hr
  exact forall_mem_visitedFrom step _ _ _ (List.forall_mem_singleton.mpr start) r
    (List.mem_filter.mp hr).1

theorem isInterface_of_mem_interfaces {r : TypeRef} (h : r ∈ model.interfaces reference) :
    r.isInterface = true := by
  rw [interfaces, interfacesFrom_eq_filter] at h
  exact (List.mem_filter.mp h).2

/-- References that extend each other only are all that is reached from one of them. -/
theorem Reaches.mem {r : TypeRef} (h : model.Reaches reference r) (references : List TypeRef)
    (start : reference ∈ references)
    (closed : ∀ r ∈ references, ∀ s ∈ model.supertypes r, s ∈ references) : r ∈ references := by
  induction h with
  | refl => exact start
  | tail _ hs ih => exact closed _ ih _ hs

theorem reaches_of_mem_interfaces {r : TypeRef} (h : r ∈ model.interfaces reference) :
    model.Reaches reference r :=
  forall_mem_interfaces (P := model.Reaches reference) (fun _ reached _ => reached.tail) .refl r h

theorem head?_interfaces (interface : reference.isInterface = true)
    (found : model.interfaces reference ≠ []) :
    (model.interfaces reference).head? = some reference := by
  unfold interfaces at found ⊢
  cases limit : model.walkLimit with
  | zero => simp [limit, interfacesFrom] at found
  | succ bound => simp [interfacesFrom, interface]

/-! ## All is visited -/

/-- If the walk comes to an end, whatever the visited references extend has been visited. -/
theorem closed_visitedFrom (apart : model.SpelledApart reference) (bound : Nat)
    (visited pending : List TypeRef) (reached : ∀ r ∈ visited, model.Reaches reference r)
    (reached' : ∀ r ∈ pending, model.Reaches reference r)
    (next : ∀ r ∈ visited, ∀ s ∈ model.supertypes r, s ∈ visited ∨ s ∈ pending)
    (ends : model.endsFrom bound (visited.map TypeRef.display) pending = true) :
    (∀ r ∈ pending,
      r ∈ visited ++ model.visitedFrom bound (visited.map TypeRef.display) pending) ∧
    ∀ r ∈ visited ++ model.visitedFrom bound (visited.map TypeRef.display) pending,
      ∀ s ∈ model.supertypes r,
        s ∈ visited ++ model.visitedFrom bound (visited.map TypeRef.display) pending := by
  -- `next` is the invariant: what is visited extends only what is visited or pending.
  induction bound generalizing visited pending with
  | zero =>
    cases pending with
    | nil => simpa [visitedFrom] using next
    | cons current pending => simp [endsFrom] at ends
  | succ bound ih =>
    cases pending with
    | nil => simpa [visitedFrom] using next
    | cons current pending =>
      obtain ⟨here, others⟩ := List.forall_mem_cons.mp reached'
      by_cases seen : current.display ∈ visited.map TypeRef.display
      · -- What is spelled like a visited reference is that reference.
        have known : current ∈ visited := by
          obtain ⟨r, hr, same⟩ := List.mem_map.mp seen
          rwa [← apart (reached r hr) here same]
        simp only [endsFrom, visitedFrom, if_pos seen] at ends ⊢
        have rest := ih visited pending reached others
          (fun r hr s hs => (next r hr s hs).elim .inl fun hs =>
            (List.mem_cons.mp hs).elim (fun same => .inl (same ▸ known)) .inr) ends
        exact ⟨List.forall_mem_cons.mpr ⟨List.mem_append_left _ known, rest.1⟩, rest.2⟩
      · simp only [endsFrom, visitedFrom, if_neg seen] at ends ⊢
        have rest := ih (current :: visited) (model.supertypes current ++ pending)
          (List.forall_mem_cons.mpr ⟨here, reached⟩)
          (List.forall_mem_append.mpr ⟨fun s hs => here.tail hs, others⟩)
          (by
            refine List.forall_mem_cons.mpr ⟨fun s hs => ?_, fun r hr s hs => ?_⟩
            · exact .inr (List.mem_append_left _ hs)
            · rcases next r hr s hs with hs | hs
              · exact .inl (.tail _ hs)
              · rcases List.mem_cons.mp hs with rfl | hs
                · exact .inl List.mem_cons_self
                · exact .inr (List.mem_append_right _ hs))
          ends
        have same : ∀ r more,
            r ∈ visited ++ current :: more ↔ r ∈ (current :: visited) ++ more := by
          simp [or_left_comm]
        simp only [same]
        refine ⟨List.forall_mem_cons.mpr ⟨List.mem_append_left _ List.mem_cons_self, ?_⟩, rest.2⟩
        exact fun r hr => rest.1 r (List.mem_append_right _ hr)

/-- If the walk comes to an end, all interfaces that are reached are found. -/
theorem mem_interfaces_iff (finite : model.HasFiniteGraph reference)
    (apart : model.SpelledApart reference) {r : TypeRef} :
    r ∈ model.interfaces reference ↔ r.isInterface = true ∧ model.Reaches reference r := by
  constructor
  · exact fun h => ⟨isInterface_of_mem_interfaces h, reaches_of_mem_interfaces h⟩
  · rintro ⟨interface, reached⟩
    obtain ⟨start, closed⟩ := closed_visitedFrom apart model.walkLimit [] [reference] (by simp)
      (List.forall_mem_singleton.mpr .refl) (by simp) finite
    have visited : ∀ r, model.Reaches reference r →
        r ∈ model.visitedFrom model.walkLimit [] [reference] := by
      intro r reached
      induction reached with
      | refl => exact start reference (List.mem_singleton.mpr rfl)
      | tail _ extended ih => exact closed _ ih _ extended
    rw [interfaces, interfacesFrom_eq_filter]
    exact List.mem_filter.mpr ⟨visited r reached, interface⟩

end Compilation

end FluentGen
