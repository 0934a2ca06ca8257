import FluentGen.Proofs.TypeParameters
import Mathlib.Data.Finset.Card
/-!
# Base classes

The levels of a class are collected in a loop that goes from a class to its base class until there
is none or a definition comes up again. References may grow on a cycle of base classes, so nothing
structural ends the loop: what ends it is that every turn meets a new key of the snapshot.

## Main definitions
* `Compilation.Extends`: one level stands for the base class of another.
* `Compilation.Climbs`: the loop, run to its end.
* `Compilation.unmet`: the keys that have not come up.
* `Compilation.IsBaseChain`: what the levels of a class are.

## Main statements
* `Compilation.climbs_levels`: the loop comes to an end and collects the levels.
* `Compilation.isBaseChain_iff`: the levels of a class, and no other list, are what they should be.
-/
namespace FluentGen

/-- The key of the definition on a level. -/
def Level.key (level : Level) : String :=
  level.declaration.key

namespace Compilation

/-- The keys of the snapshot, each once. -/
def keys (model : Compilation) : Finset String :=
  (model.types.map NamedType.key).toFinset

/-- Whether `base` is the level of the base class of `level`: the declaration that the snapshot has
for the base class as `level` closes it, with the types that this puts in the place of its type
parameters. -/
def Extends (model : Compilation) (level base : Level) : Prop :=
  ∃ written, level.declaration.baseType = some written ∧
    model.resolve? (written.substitute level.bindings) = some base.declaration ∧
    base.bindings = base.declaration.bindingsFor (written.substitute level.bindings)

/-- Whether the chain of base classes cannot go on from its last level: there is no base class, the
snapshot does not declare it, or its definition has come up. -/
def EndsAt (model : Compilation) (levels : List Level) (last : Level) : Prop :=
  last.declaration.baseType = none ∨
    ∃ written, last.declaration.baseType = some written ∧
      (model.resolve? (written.substitute last.bindings) = none ∨
        ∃ declaration, model.resolve? (written.substitute last.bindings) = some declaration ∧
          declaration.key ∈ levels.map Level.key)

/-- A run of the loop that collects the levels of a class: from a level on, if there is one, with
the keys in `visited` met before. A derivation is a run that comes to its end. -/
inductive Climbs (model : Compilation) :
    (visited : List String) → Option Level → (levels : List Level) → Prop where
  | top {visited : List String} : Climbs model visited none []
  | again {visited : List String} {level : Level} : level.key ∈ visited →
      Climbs model visited (some level) []
  | climb {visited : List String} {level : Level} {levels : List Level} : level.key ∉ visited →
      Climbs model (level.key :: visited) (model.baseLevel? level) levels →
      Climbs model visited (some level) (level :: levels)

/-- What the levels of a class are. -/
structure IsBaseChain (model : Compilation) (start : Level) (levels : List Level) : Prop where
  /-- The loop that collects them comes to its end. -/
  run : model.Climbs [] (some start) levels
  apart : (levels.map Level.key).Nodup
  length_le : levels.length ≤ model.keys.card + 1
  start : levels.head? = some start
  bases : levels.IsChain model.Extends
  ends : ∃ last ∈ levels.getLast?, model.EndsAt levels last

variable {model : Compilation} {level start : Level} {next : Option Level} {visited : List String}
  {levels : List Level}

theorem mem_keys_of_mem_types {declaration : NamedType} (h : declaration ∈ model.types) :
    declaration.key ∈ model.keys :=
  List.mem_toFinset.mpr (List.mem_map_of_mem h)

theorem extends_of_baseLevel? {base : Level} (h : model.baseLevel? level = some base) :
    model.Extends level base :=
  baseLevel?_eq_some_iff.mp h

theorem Extends.mem_types {base : Level} (h : model.Extends level base) :
    base.declaration ∈ model.types := by
  obtain ⟨_, -, found, -⟩ := h
  exact mem_of_find? found

namespace Climbs

/-- A run is determined by where it starts. -/
theorem unique {levels' : List Level} (h : model.Climbs visited next levels)
    (h' : model.Climbs visited next levels') : levels = levels' := by
  induction h generalizing levels' with
  | top => cases h'; rfl
  | again met =>
    cases h' with
    | again => rfl
    | climb fresh => exact absurd met fresh
  | climb fresh _ ih =>
    cases h' with
    | again met => exact absurd met fresh
    | climb _ rest => rw [ih rest]

/-- The keys that a run meets are added to those that were met before, the latest first. -/
theorem reverse_climb (visited : List String) (level : Level) (levels : List Level) :
    ((level :: levels).map Level.key).reverse ++ visited =
      (levels.map Level.key).reverse ++ level.key :: visited := by
  simp

/-- All keys that are met are new. -/
theorem nodup (h : model.Climbs visited next levels) (before : visited.Nodup) :
    ((levels.map Level.key).reverse ++ visited).Nodup := by
  induction h with
  | top => exact before
  | again => exact before
  | climb fresh _ ih =>
    rw [reverse_climb]
    exact ih (List.nodup_cons.mpr ⟨fresh, before⟩)

theorem nodup_keys (h : model.Climbs visited next levels) (before : visited.Nodup) :
    (levels.map Level.key).Nodup :=
  List.nodup_reverse.mp (h.nodup before).of_append_left

theorem forall_mem_types (h : model.Climbs visited next levels)
    (start : ∀ level ∈ next, level.declaration ∈ model.types) :
    ∀ level ∈ levels, level.declaration ∈ model.types := by
  induction h with
  | top => simp
  | again => simp
  | climb _ _ ih =>
    refine List.forall_mem_cons.mpr ⟨start _ rfl, ih fun base h => ?_⟩
    exact (extends_of_baseLevel? h).mem_types

theorem head?_eq (h : model.Climbs visited (some level) levels) (fresh : level.key ∉ visited) :
    levels.head? = some level := by
  cases h with
  | again met => exact absurd met fresh
  | climb => rfl

/-- A run goes on from where it starts. -/
theorem eq_some (h : model.Climbs visited next (level :: levels)) : next = some level := by
  cases h
  rfl

/-- A run that collects nothing starts from no level or from one that was met before. -/
theorem met_of_nil (h : model.Climbs visited next []) : ∀ level ∈ next, level.key ∈ visited := by
  cases h with
  | top => simp
  | again met => exact fun _ same => Option.some.inj same ▸ met

/-- Every level but the first is that of the base class of the one before. -/
theorem isChain (h : model.Climbs visited next levels) : levels.IsChain model.Extends := by
  induction h with
  | top => exact .nil
  | again => exact .nil
  | @climb _ level levels _ rest ih =>
    cases levels with
    | nil => exact .singleton level
    | cons base levels => exact .cons_cons (extends_of_baseLevel? rest.eq_some) ih

/-- The last level has no base class that could follow, or one that was met before. -/
theorem met_of_last (h : model.Climbs visited next levels) : ∀ last ∈ levels.getLast?,
    ∀ base ∈ model.baseLevel? last, base.key ∈ (levels.map Level.key).reverse ++ visited := by
  induction h with
  | top => simp
  | again => simp
  | @climb visited level levels _ rest ih =>
    intro last hlast
    rw [reverse_climb]
    cases levels with
    | nil =>
      obtain rfl : level = last := Option.some.inj hlast
      exact rest.met_of_nil
    | cons other levels =>
      rw [List.getLast?_cons_cons] at hlast
      exact ih last hlast

end Climbs

/-! ## The loop comes to an end -/

/-- The keys of the snapshot that have not come up. -/
def unmet (model : Compilation) (visited : List String) : Finset String :=
  model.keys.filter (· ∉ visited)

theorem card_unmet_lt (declared : level.declaration ∈ model.types) (fresh : level.key ∉ visited) :
    (model.unmet (level.key :: visited)).card < (model.unmet visited).card := by
  refine Finset.card_lt_card (Finset.ssubset_iff_subset_ne.mpr ⟨fun key hkey => ?_, fun same => ?_⟩)
  · obtain ⟨mem, absent⟩ := Finset.mem_filter.mp hkey
    exact Finset.mem_filter.mpr ⟨mem, fun met => absent (List.mem_cons_of_mem _ met)⟩
  · have mem : level.key ∈ model.unmet visited :=
      Finset.mem_filter.mpr ⟨mem_keys_of_mem_types declared, fresh⟩
    rw [← same] at mem
    exact (Finset.mem_filter.mp mem).2 List.mem_cons_self

theorem card_keys_le (model : Compilation) : model.keys.card ≤ model.types.length := by
  rw [keys, ← List.length_map NamedType.key]
  exact List.toFinset_card_le _

/-- One turn of the bounded loop. -/
theorem climbs_levelsFrom_succ {bound : Nat} (fresh : level.key ∉ visited)
    (rest : ∀ base ∈ model.baseLevel? level,
      model.Climbs (level.key :: visited) (some base)
        (model.levelsFrom bound (level.key :: visited) base)) :
    model.Climbs visited (some level) (model.levelsFrom (bound + 1) visited level) := by
  rw [levelsFrom, if_neg (show level.declaration.key ∉ visited from fresh)]
  cases found : model.baseLevel? level with
  | none => exact .climb fresh (found ▸ .top)
  | some base => exact .climb fresh (found ▸ rest base found)

/-- With as many turns as there are keys left, the bounded loop is a run to the end. -/
theorem climbs_levelsFrom (bound : Nat) (declared : level.declaration ∈ model.types)
    (enough : (model.unmet visited).card ≤ bound) :
    model.Climbs visited (some level) (model.levelsFrom bound visited level) := by
  induction bound generalizing level visited with
  | zero =>
    -- No key is left, so this one has come up.
    by_contra endless
    have fresh : level.key ∉ visited := fun met => endless (by rw [levelsFrom]; exact .again met)
    exact absurd (card_unmet_lt declared fresh) (by omega)
  | succ bound ih =>
    by_cases met : level.key ∈ visited
    · rw [levelsFrom, if_pos (show level.declaration.key ∈ visited from met)]
      exact .again met
    · refine climbs_levelsFrom_succ met fun base next => ?_
      have fewer := card_unmet_lt declared met
      exact ih (extends_of_baseLevel? next).mem_types (by omega)

/-- The loop comes to an end, and what it collects are the levels of the class. -/
theorem climbs_levels (model : Compilation) (start : NamedType) (bindings : Bindings) :
    model.Climbs [] (some ⟨start, bindings⟩) (model.levels start bindings) := by
  refine climbs_levelsFrom_succ (List.not_mem_nil) fun base next => ?_
  refine climbs_levelsFrom _ (extends_of_baseLevel? next).mem_types ?_
  calc (model.unmet _).card
    _ ≤ model.keys.card := Finset.card_filter_le _ _
    _ ≤ model.types.length := model.card_keys_le

/-! ## The chain -/

theorem Climbs.length_le (h : model.Climbs [] (some level) levels) :
    levels.length ≤ model.keys.card + 1 := by
  cases h with
  | again => exact Nat.zero_le _
  | @climb _ _ levels fresh rest =>
    -- The snapshot need not declare the class itself, but it does declare all that follow.
    have declared := rest.forall_mem_types fun base h => (extends_of_baseLevel? h).mem_types
    have inside : (levels.map Level.key).toFinset ⊆ model.keys := fun key hkey => by
      obtain ⟨other, hother, rfl⟩ := List.mem_map.mp (List.mem_toFinset.mp hkey)
      exact mem_keys_of_mem_types (declared other hother)
    have count := Finset.card_le_card inside
    rw [List.toFinset_card_of_nodup (rest.nodup_keys (List.nodup_singleton _)),
      List.length_map] at count
    simpa using count

theorem endsAt_of_forall {last : Level}
    (h : ∀ base ∈ model.baseLevel? last, base.key ∈ levels.map Level.key) :
    model.EndsAt levels last := by
  cases extended : last.declaration.baseType with
  | none => exact .inl extended
  | some written =>
    refine .inr ⟨written, extended, ?_⟩
    cases found : model.resolve? (written.substitute last.bindings) with
    | none => exact .inl rfl
    | some declaration =>
      let base : Level := ⟨declaration, declaration.bindingsFor (written.substitute last.bindings)⟩
      have next : model.baseLevel? last = some base :=
        baseLevel?_eq_some_iff.mpr ⟨written, extended, found, rfl⟩
      exact .inr ⟨declaration, rfl, h base next⟩

theorem Climbs.isBaseChain (h : model.Climbs [] (some start) levels) :
    model.IsBaseChain start levels where
  run := h
  apart := h.nodup_keys .nil
  length_le := h.length_le
  start := h.head?_eq List.not_mem_nil
  bases := h.isChain
  ends := by
    have nonempty : levels ≠ [] := by
      rintro rfl
      exact List.not_mem_nil (h.met_of_nil start rfl)
    have last := List.getLast?_eq_some_getLast nonempty
    refine ⟨_, last, endsAt_of_forall fun base hbase => ?_⟩
    simpa using h.met_of_last _ last base hbase

variable {bindings : Bindings} {declaration : NamedType}

/-- The levels of a class are a chain of base classes that cannot go on, and no other list is. -/
theorem isBaseChain_iff :
    model.IsBaseChain ⟨declaration, bindings⟩ levels ↔
      levels = model.levels declaration bindings := by
  constructor
  · exact fun chain => chain.run.unique (model.climbs_levels declaration bindings)
  · rintro rfl
    exact (model.climbs_levels declaration bindings).isBaseChain

/-- Two classes that extend each other over ever larger lists have two levels. -/
example :
    let grows (name base : String) : NamedType :=
      { name, typeParameters := [{ name := "T" }],
        baseType := some (.generic "" base .classType [Framework.listOf (.typeParameter "T")]) }
    let model : Compilation := { types := [grows "Node" "Link", grows "Link" "Node"] }
    (model.levels (grows "Node" "Link") [("T", .keyword "int")]).map
        (fun level => (level.key, level.bindings.map (·.2.simpleDisplay))) =
      [("Node`1", ["int"]), ("Link`1", ["List<int>"])] := by
  decide

end Compilation

end FluentGen
