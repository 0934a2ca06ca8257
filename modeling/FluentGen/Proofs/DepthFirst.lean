import FluentGen.Proofs.InterfaceGraph
import Mathlib.Data.Finset.Card
import Mathlib.Data.Set.Finite.Basic
/-!
# Depth-first search

The recursive search goes down from a reference before it goes on to the next one. The walk over the
interface graph has a stack instead: what is found below a reference is pushed in front of what is
pending. Both visit the same references in the same order, and the walk needs as many steps as
references are pushed.

## Main definitions
* `DepthFirst`: the references that the recursive search visits, in order.
* `DepthFirst.steps`: the number of references that are pushed on the way.

## Main statements
* `DepthFirst.unique`: the search is determined by where it starts.
* `DepthFirst.covers`: nothing that a visited reference leads to is left out.
* `DepthFirst.exists_of_finite`: the search comes to an end on finitely many references.
* `DepthFirst.visitedFrom_append`: the walk visits what the search visits.
* `DepthFirst.interfaces_eq`: it finds the interfaces among them.
-/
namespace FluentGen

/-- A recursive depth-first search along `next`: from the pending references, given those visited
before, the latest first, it visits those of `order`. A reference that is spelled like a visited one
is passed over. -/
inductive DepthFirst (next : TypeRef → List TypeRef) :
    (visited pending order : List TypeRef) → Prop where
  | done {visited : List TypeRef} : DepthFirst next visited [] []
  | skip {visited pending order : List TypeRef} {reference : TypeRef} :
      reference.display ∈ visited.map TypeRef.display → DepthFirst next visited pending order →
      DepthFirst next visited (reference :: pending) order
  /-- What lies below a reference is visited before what is pending beside it. -/
  | visit {visited pending below others : List TypeRef} {reference : TypeRef} :
      reference.display ∉ visited.map TypeRef.display →
      DepthFirst next (reference :: visited) (next reference) below →
      DepthFirst next (below.reverse ++ reference :: visited) pending others →
      DepthFirst next visited (reference :: pending) (reference :: below ++ others)

namespace DepthFirst

variable {next : TypeRef → List TypeRef} {visited pending order : List TypeRef}

/-- A search is determined by what is pending and what was visited before. -/
theorem unique {order' : List TypeRef} (h : DepthFirst next visited pending order)
    (h' : DepthFirst next visited pending order') : order = order' := by
  induction h generalizing order' with
  | done => cases h'; rfl
  | skip seen _ ih =>
    cases h' with
    | skip _ rest => exact ih rest
    | visit unseen => exact absurd seen unseen
  | visit unseen _ _ ihBelow ihOthers =>
    cases h' with
    | skip seen => exact absurd seen unseen
    | visit _ below others =>
      obtain rfl := ihBelow below
      obtain rfl := ihOthers others
      rfl

/-- What holds of the pending references and is handed on holds of all that are visited. -/
theorem forall_mem {P : TypeRef → Prop} (h : DepthFirst next visited pending order)
    (step : ∀ r, P r → ∀ s ∈ next r, P s) (start : ∀ r ∈ pending, P r) : ∀ r ∈ order, P r := by
  induction h with
  | done => exact start
  | skip _ _ ih => exact ih (List.forall_mem_cons.mp start).2
  | visit _ _ _ ihBelow ihOthers =>
    obtain ⟨here, others⟩ := List.forall_mem_cons.mp start
    exact List.forall_mem_append.mpr
      ⟨List.forall_mem_cons.mpr ⟨here, ihBelow (step _ here)⟩, ihOthers others⟩

/-- What is visited beside a reference comes after the reference and what lies below it. -/
theorem reverse_visit (visited below others : List TypeRef) (reference : TypeRef) :
    (reference :: below ++ others).reverse ++ visited =
      others.reverse ++ (below.reverse ++ reference :: visited) := by
  simp

/-- All that is visited has different texts. -/
theorem nodup (h : DepthFirst next visited pending order)
    (before : (visited.map TypeRef.display).Nodup) :
    ((order.reverse ++ visited).map TypeRef.display).Nodup := by
  induction h with
  | done => exact before
  | skip _ _ ih => exact ih before
  | visit unseen _ _ ihBelow ihOthers =>
    rw [reverse_visit]
    exact ihOthers (ihBelow (List.nodup_cons.mpr ⟨unseen, before⟩))

/-- Nothing is left out: all pending references and all that visited ones lead to are visited. -/
theorem covers (h : DepthFirst next visited pending order) :
    (∀ r ∈ pending, r.display ∈ (order.reverse ++ visited).map TypeRef.display) ∧
      ∀ r ∈ order, ∀ s ∈ next r, s.display ∈ (order.reverse ++ visited).map TypeRef.display := by
  induction h with
  | done => exact ⟨nofun, nofun⟩
  | @skip visited pending order reference seen _ ih =>
    refine ⟨List.forall_mem_cons.mpr ⟨?_, ih.1⟩, ih.2⟩
    rw [List.map_append]
    exact List.mem_append_right _ seen
  | @visit visited pending below others reference _ _ _ ihBelow ihOthers =>
    -- What the search below has visited stays visited.
    have later : ∀ text ∈ (below.reverse ++ reference :: visited).map TypeRef.display,
        text ∈ (others.reverse ++ (below.reverse ++ reference :: visited)).map TypeRef.display :=
      fun text h => by
        rw [List.map_append]
        exact List.mem_append_right _ h
    rw [reverse_visit]
    refine ⟨List.forall_mem_cons.mpr ⟨later _ (by simp), ihOthers.1⟩, ?_⟩
    refine List.forall_mem_append.mpr ⟨List.forall_mem_cons.mpr ⟨?_, ?_⟩, ihOthers.2⟩
    · exact fun s hs => later _ (ihBelow.1 s hs)
    · exact fun r hr s hs => later _ (ihBelow.2 r hr s hs)

/-! ## The search comes to an end -/

/-- The texts that have not come up. -/
def unseen (texts : Finset String) (visited : List TypeRef) : Finset String :=
  texts.filter (· ∉ visited.map TypeRef.display)

theorem unseen_ssubset {texts : Finset String} {reference : TypeRef} {visited : List TypeRef}
    (here : reference.display ∈ texts) (fresh : reference.display ∉ visited.map TypeRef.display)
    (later : List TypeRef) :
    unseen texts (later ++ reference :: visited) ⊂ unseen texts visited := by
  refine Finset.ssubset_iff_subset_ne.mpr ⟨fun text htext => ?_, fun same => ?_⟩
  · obtain ⟨mem, absent⟩ := Finset.mem_filter.mp htext
    exact Finset.mem_filter.mpr ⟨mem, fun seen => absent (by simp [List.mem_map.mp seen])⟩
  · have mem : reference.display ∈ unseen texts visited := Finset.mem_filter.mpr ⟨here, fresh⟩
    rw [← same] at mem
    exact (Finset.mem_filter.mp mem).2 (by simp)

/-- On references with finitely many texts that lead to each other only, the search comes to an
end. -/
theorem exists_of_finite {P : TypeRef → Prop} (closed : ∀ r, P r → ∀ s ∈ next r, P s)
    (texts : Finset String) (finite : ∀ r, P r → r.display ∈ texts) (visited : List TypeRef)
    (pending : List TypeRef) (start : ∀ r ∈ pending, P r) :
    ∃ order, DepthFirst next visited pending order := by
  -- Every visited reference has a new text, so fewer are left below it and beside it.
  induction fresh : unseen texts visited using Finset.strongInduction generalizing visited pending
  next left ih =>
    subst fresh
    induction pending with
    | nil => exact ⟨[], .done⟩
    | cons reference pending ihPending =>
      obtain ⟨here, others⟩ := List.forall_mem_cons.mp start
      by_cases seen : reference.display ∈ visited.map TypeRef.display
      · obtain ⟨order, rest⟩ := ihPending others
        exact ⟨order, .skip seen rest⟩
      · have fewer := unseen_ssubset (finite _ here) seen
        obtain ⟨below, down⟩ := ih _ (fewer []) _ (next reference) (closed _ here) rfl
        obtain ⟨order, rest⟩ := ih _ (fewer below.reverse) _ pending others rfl
        exact ⟨_, .visit seen down rest⟩

/-! ## The walk with a stack -/

/-- The number of references that are pending at first or are pushed on the way. -/
def steps (next : TypeRef → List TypeRef) (pending order : List TypeRef) : Nat :=
  pending.length + (order.flatMap next).length

/-- The walk visits what the search visits before it goes on to the rest of its stack. -/
theorem visitedFrom_append {model : Compilation} (h : DepthFirst next visited pending order)
    (same : ∀ r ∈ order, model.supertypes r = next r) (bound : Nat) (rest : List TypeRef) :
    model.visitedFrom (steps next pending order + bound) (visited.map TypeRef.display)
        (pending ++ rest) =
      order ++ model.visitedFrom bound ((order.reverse ++ visited).map TypeRef.display) rest ∧
    model.endsFrom (steps next pending order + bound) (visited.map TypeRef.display)
        (pending ++ rest) =
      model.endsFrom bound ((order.reverse ++ visited).map TypeRef.display) rest := by
  induction h generalizing bound rest with
  | done => simp [steps]
  | @skip visited pending order reference seen _ ih =>
    have count : steps next (reference :: pending) order + bound =
        steps next pending order + bound + 1 := by
      simp only [steps, List.length_cons]
      omega
    rw [count, List.cons_append, Compilation.visitedFrom, Compilation.endsFrom, if_pos seen,
      if_pos seen]
    exact ih same bound rest
  | @visit visited pending below others reference fresh _ _ ihBelow ihOthers =>
    have count : steps next (reference :: pending) (reference :: below ++ others) + bound =
        steps next (next reference) below + (steps next pending others + bound) + 1 := by
      simp only [steps, List.length_cons, List.cons_append, List.flatMap_cons, List.flatMap_append,
        List.length_append]
      omega
    obtain ⟨here, onOthers⟩ := List.forall_mem_append.mp same
    obtain ⟨here, onBelow⟩ := List.forall_mem_cons.mp here
    have down := ihBelow onBelow (steps next pending others + bound) (pending ++ rest)
    have beside := ihOthers onOthers bound rest
    rw [count, List.cons_append, Compilation.visitedFrom, Compilation.endsFrom, if_neg fresh,
      if_neg fresh, here, ← List.map_cons, down.1, down.2, beside.1, beside.2, reverse_visit]
    simp

end DepthFirst

namespace Compilation

variable {model : Compilation}

theorem visitedFrom_nil (bound : Nat) (seen : List String) :
    model.visitedFrom bound seen [] = [] := by
  cases bound <;> rfl

theorem endsFrom_nil (bound : Nat) (seen : List String) : model.endsFrom bound seen [] = true := by
  cases bound <;> rfl

/-- A walk that comes to an end visits the same under any greater bound. -/
theorem visitedFrom_add (bound more : Nat) (seen : List String) (pending : List TypeRef)
    (ends : model.endsFrom bound seen pending = true) :
    model.visitedFrom (bound + more) seen pending = model.visitedFrom bound seen pending := by
  induction bound generalizing seen pending with
  | zero =>
    cases pending with
    | nil => rw [visitedFrom_nil, visitedFrom_nil]
    | cons => cases ends
  | succ bound ih =>
    rw [Nat.add_right_comm]
    cases pending with
    | nil => rfl
    | cons current pending =>
      by_cases known : current.display ∈ seen
      · simp only [endsFrom, visitedFrom, if_pos known] at ends ⊢
        exact ih seen pending ends
      · simp only [endsFrom, visitedFrom, if_neg known] at ends ⊢
        rw [ih _ _ ends]

end Compilation

namespace DepthFirst

variable {next : TypeRef → List TypeRef} {order : List TypeRef} {model : Compilation}
  {reference : TypeRef}

/-- The walk comes to an end if the bound is not below the number of references that are pushed. -/
theorem hasFiniteGraph (h : DepthFirst next [] [reference] order)
    (same : ∀ r ∈ order, model.supertypes r = next r)
    (enough : steps next [reference] order ≤ model.walkLimit) : model.HasFiniteGraph reference := by
  obtain ⟨more, limit⟩ := Nat.exists_eq_add_of_le enough
  have ends := (h.visitedFrom_append same more []).2
  rwa [List.append_nil, Compilation.endsFrom_nil, ← limit] at ends

/-- Once the walk comes to an end, it has found the interfaces that the search visits. -/
theorem interfaces_eq (h : DepthFirst next [] [reference] order)
    (same : ∀ r ∈ order, model.supertypes r = next r) (finite : model.HasFiniteGraph reference) :
    model.interfaces reference = order.filter (·.isInterface) := by
  have visited := (h.visitedFrom_append same model.walkLimit []).1
  rw [List.append_nil, Compilation.visitedFrom_nil, List.append_nil, Nat.add_comm] at visited
  rw [Compilation.interfaces, Compilation.interfacesFrom_eq_filter,
    ← Compilation.visitedFrom_add _ (steps next [reference] order) _ _ finite]
  exact congrArg _ visited

end DepthFirst

end FluentGen
