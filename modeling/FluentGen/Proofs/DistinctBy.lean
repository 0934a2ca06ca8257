import FluentGen.Entity
/-!
# The first item of each key

`distinctBy` keeps the items that no earlier item of the same key stands before. What is left has
pairwise different keys, loses no key, and answers a search for a key as the whole list does.

## Main statements
* `mem_distinctBy_iff`: an item is kept if and only if it is the first of its key.
* `pairwise_distinctBy`: the keys that are left are different.
* `find?_distinctBy`: a search by key finds the same item before and after.
* `distinctBy_append`: what is left of two lists, told by what is left of each.
* `pairwise_findIdx_distinctBy`: the items that are left stand in the order in which they come up.
-/
namespace FluentGen

variable {α : Type} {key : α → String}

theorem distinctBy_sublist (items : List α) : (distinctBy key items).Sublist items := by
  induction items with
  | nil => exact .slnil
  | cons first others ih => exact (List.filter_sublist.trans ih).cons_cons first

theorem mem_of_mem_distinctBy {item : α} {items : List α} (h : item ∈ distinctBy key items) :
    item ∈ items :=
  (distinctBy_sublist items).subset h

theorem pairwise_distinctBy (key : α → String) (items : List α) :
    (distinctBy key items).Pairwise fun a b => key a ≠ key b := by
  induction items with
  | nil => exact .nil
  | cons first others ih =>
    refine List.pairwise_cons.mpr ⟨?_, ih.sublist List.filter_sublist⟩
    intro other hother
    have := (List.mem_filter.mp hother).2
    exact fun eq => by simp [eq] at this

theorem nodup_map_distinctBy (items : List α) : ((distinctBy key items).map key).Nodup :=
  List.pairwise_map.mpr (pairwise_distinctBy key items)

theorem find?_distinctBy (items : List α) (k : String) :
    (distinctBy key items).find? (key · == k) = items.find? (key · == k) := by
  induction items with
  | nil => rfl
  | cons first others ih =>
    by_cases hk : key first = k
    · simp [distinctBy, hk]
    · have same : (fun other => decide ((key other != key first) = true ∧ (key other == k) = true))
          = (key · == k) := by
        funext other
        by_cases h : key other = k <;> simp [h, Ne.symm hk]
      simp only [distinctBy, List.find?_cons, beq_eq_false_iff_ne.mpr hk, List.find?_filter, same]
      exact ih

/-- An item is kept if and only if a search for its key finds it. -/
theorem mem_distinctBy_iff {item : α} {items : List α} :
    item ∈ distinctBy key items ↔ items.find? (key · == key item) = some item := by
  constructor
  · intro h
    rw [← find?_distinctBy]
    obtain ⟨before, after, split⟩ := List.append_of_mem h
    have apart := pairwise_distinctBy key items
    rw [split, List.pairwise_append] at apart
    refine List.find?_eq_some_iff_append.mpr ⟨by simp, before, after, split, ?_⟩
    intro other hother
    simpa using apart.2.2 other hother item (by simp)
  · intro h
    rw [← find?_distinctBy] at h
    exact List.mem_of_find?_eq_some h

/-- No key is lost. -/
theorem exists_mem_distinctBy {item : α} {items : List α} (h : item ∈ items) :
    ∃ first ∈ distinctBy key items, key first = key item := by
  have found : (distinctBy key items).find? (key · == key item) ≠ none := by
    rw [find?_distinctBy]
    intro none
    simpa using List.find?_eq_none.mp none item h
  obtain ⟨first, hfirst⟩ := Option.ne_none_iff_exists'.mp found
  exact ⟨first, List.mem_of_find?_eq_some hfirst, by simpa using List.find?_some hfirst⟩

theorem distinctBy_map {β : Type} (f : β → α) (items : List β) :
    distinctBy key (items.map f) = (distinctBy (key ∘ f) items).map f := by
  induction items with
  | nil => rfl
  | cons first others ih =>
    simp only [List.map_cons, distinctBy, ih, List.filter_map]
    rfl

/-- Accepting items by their keys does not depend on which of a key is left. -/
theorem filter_distinctBy (accepts : String → Bool) (items : List α) :
    (distinctBy key items).filter (accepts ∘ key) = distinctBy key (items.filter (accepts ∘ key)) := by
  induction items with
  | nil => rfl
  | cons first others ih =>
    rw [distinctBy, List.filter_cons, List.filter_cons]
    split
    next accepted =>
      rw [distinctBy, ← ih, List.filter_filter, List.filter_filter]
      exact congrArg _ (List.filter_congr fun other _ => Bool.and_comm _ _)
    next refused =>
      -- The key of the first item is not accepted, so nothing more is lost by taking it out.
      rw [← ih, List.filter_filter]
      refine List.filter_congr fun other _ => ?_
      by_cases same : key other = key first <;> simp_all

/-- What comes later is left only if its key has not come up before. -/
theorem distinctBy_append (items others : List α) :
    distinctBy key (items ++ others) = distinctBy key items ++
      (distinctBy key others).filter fun other => items.all (key other != key ·) := by
  induction items with
  | nil => exact (List.filter_eq_self.mpr fun _ _ => rfl).symm
  | cons first items ih =>
    simp only [List.cons_append, distinctBy, ih, List.filter_append, List.filter_filter,
      List.all_cons]

theorem distinctBy_eq_self {items : List α} (h : items.Pairwise fun a b => key a ≠ key b) :
    distinctBy key items = items := by
  induction items with
  | nil => rfl
  | cons first others ih =>
    obtain ⟨apart, h⟩ := List.pairwise_cons.mp h
    rw [distinctBy, ih h, List.filter_eq_self.mpr]
    exact fun other hother => bne_iff_ne.mpr (apart other hother).symm

/-- Of the accepted items, those that are left stand in the order in which the first accepted ones
of their keys come up. -/
theorem pairwise_findIdx_distinctBy (accepts : α → Bool) (items : List α) :
    (distinctBy key (items.filter accepts)).Pairwise fun a b =>
      items.findIdx (fun item => accepts item && key item == key a) <
        items.findIdx (fun item => accepts item && key item == key b) := by
  induction items with
  | nil => exact .nil
  | cons first others ih =>
    by_cases accepted : accepts first
    · rw [List.filter_cons_of_pos accepted, distinctBy]
      have later : ∀ a ∈ (distinctBy key (others.filter accepts)).filter (key · != key first),
          (key first == key a) = false := fun a ha =>
        beq_false_of_ne (bne_iff_ne.mp (List.mem_filter.mp ha).2).symm
      refine List.pairwise_cons.mpr ⟨fun b hb => ?_, (ih.filter _).imp_of_mem fun ha hb h => ?_⟩
      · simp [List.findIdx_cons, accepted, later b hb]
      · simpa [List.findIdx_cons, later _ ha, later _ hb] using h
    · rw [List.filter_cons_of_neg accepted]
      simpa [List.findIdx_cons, accepted] using ih

/-! ## Lists of names -/

variable {name : String} {names : List String}

theorem mem_distinctBy_id_iff : name ∈ distinctBy id names ↔ name ∈ names := by
  refine ⟨mem_of_mem_distinctBy, fun h => ?_⟩
  obtain ⟨_, hname, rfl⟩ : ∃ first ∈ distinctBy id names, id first = name := exists_mem_distinctBy h
  exact hname

theorem nodup_distinctBy_id (names : List String) : (distinctBy id names).Nodup := by
  have distinct : ((distinctBy id names).map id).Nodup := nodup_map_distinctBy names
  rwa [List.map_id] at distinct

/-- Names are left in the order in which they first come up. -/
theorem pairwise_idxOf_distinctBy_id (names : List String) :
    (distinctBy id names).Pairwise fun a b => names.idxOf a < names.idxOf b := by
  have ordered := @pairwise_findIdx_distinctBy String id (fun _ => true) names
  rw [List.filter_eq_self.mpr fun _ _ => rfl] at ordered
  exact ordered

end FluentGen
