import FluentGen.Proofs.DistinctBy
import FluentGen.Proofs.TypeParameters
import FluentGen.Proofs.UsableConfigurations
import FluentGen.GeneratedClass
/-!
# Imported namespaces

A generated file imports what the helpers, the entity, the constraints of its open type parameters and
the configuration ask for, each namespace once and in the order in which they come up. What is in the
global namespace needs no import. The global namespace of an entity is passed over, and so are empty
items of the configuration, but a constraint may mention it as a namespace of an empty name, and this
is imported like any other.

## Main definitions
* `TypeRef.qualifiers`, `TypeRef.namespaces`: the namespaces that a reference is written with, and
  those of them that can be imported.
* `importSources`: what has to be imported, in the order in which it comes up.
* `WellFormedImports`: whether a list has exactly this, each namespace once and in this order.

## Main statements
* `TypeRef.addNamespaces_eq`: collecting the namespaces of a reference adds those that are new.
* `wellFormedImports_iff`: imports are well-formed where no constraint mentions an empty namespace.
-/
namespace FluentGen

/-! ## Namespaces of references -/

namespace TypeRef

/-- The namespaces that a reference and its arguments are written with, at every depth. -/
def qualifiers (type : TypeRef) : List String :=
  type.parts.filterMap (·.qualifier)

/-- Those of them that have a name; the global one has none. -/
def namespaces (type : TypeRef) : List String :=
  type.qualifiers.filter (· ≠ "")

/-- The names with one more at the end, if it is new. -/
def addNew (seen : List String) (name : String) : List String :=
  if name ∈ seen then seen else seen ++ [name]

variable {type : TypeRef}

theorem qualifiers_eq (type : TypeRef) :
    type.qualifiers = type.qualifier.toList ++ type.arguments.flatMap qualifiers := by
  obtain ⟨name, qualifier, kind, arguments, nullable⟩ := type
  have inner : arguments.flatMap qualifiers = (partsOfAll arguments).filterMap (·.qualifier) := by
    rw [partsOfAll_eq_flatMap, List.filterMap_flatMap]
    rfl
  cases qualifier <;> simp [qualifiers, parts, ← inner]

theorem addAllNamespaces_eq_foldl (seen : List String) (types : List TypeRef) :
    addAllNamespaces seen types = types.foldl addNamespaces seen := by
  induction types generalizing seen with
  | nil => rfl
  | cons type types ih => rw [addAllNamespaces, ih, List.foldl_cons]

theorem addNamespaces_eq_foldl (seen : List String) (type : TypeRef) :
    type.addNamespaces seen = type.qualifiers.foldl addNew seen := by
  induction type using induction_arguments generalizing seen with
  | step type ih =>
    rw [qualifiers_eq, List.foldl_append, List.foldl_flatMap]
    obtain ⟨name, qualifier, kind, arguments, nullable⟩ := type
    simp only [addNamespaces, addAllNamespaces_eq_foldl]
    refine (List.foldl_ext _ _ _ fun seen argument h => ih argument h seen).trans ?_
    cases qualifier <;> rfl

theorem foldl_addNew (seen names : List String) :
    names.foldl addNew seen = seen ++ (distinctBy id names).filter (· ∉ seen) := by
  induction names generalizing seen with
  | nil => simp [distinctBy]
  | cons name names ih =>
    rw [List.foldl_cons, ih, addNew, distinctBy, List.filter_cons, List.filter_filter]
    split
    next old =>
      -- What has been seen is left out with its later occurrences.
      rw [if_neg (by simpa using old)]
      congr 1
      exact List.filter_congr fun other _ => by grind
    next new =>
      rw [if_pos (by simpa using new), List.append_assoc, List.singleton_append]
      congr 2
      exact List.filter_congr fun other _ => by grind

/-- Collecting the namespaces of a reference adds those that are new, in the order in which they are
written. -/
theorem addNamespaces_eq (seen : List String) (type : TypeRef) :
    type.addNamespaces seen = seen ++ (distinctBy id type.qualifiers).filter (· ∉ seen) := by
  rw [addNamespaces_eq_foldl, foldl_addNew]

theorem addAllNamespaces_nil (types : List TypeRef) :
    addAllNamespaces [] types = distinctBy id (types.flatMap qualifiers) := by
  calc addAllNamespaces [] types
    _ = (types.flatMap qualifiers).foldl addNew [] := by
      rw [addAllNamespaces_eq_foldl, List.foldl_flatMap]
      exact List.foldl_ext _ _ _ fun seen type _ => addNamespaces_eq_foldl seen type
    _ = distinctBy id (types.flatMap qualifiers) := by
      rw [foldl_addNew, List.nil_append, List.filter_eq_self]
      exact fun _ _ => by simp

end TypeRef

/-! ## Imports -/

/-- The namespaces that a builder has to import, in the order in which they come up: those of every
builder, that of the entity, those of the constraints of its open type parameters, and those that the
configuration adds. -/
def importSources (entity : Entity) (config : Configuration) : List String :=
  baseNamespaces ++ [entity.qualifier].filter (· ≠ "") ++
    entity.constraintTypes.flatMap TypeRef.namespaces ++ config.mocking.namespaces ++
    config.fixture.namespaces

/-- Whether a list has exactly the namespaces that a builder has to import. -/
structure WellFormedImports (entity : Entity) (config : Configuration) (imports : List String) :
    Prop where
  base : baseNamespaces <+: imports
  nonempty : "" ∉ imports
  nodup : imports.Nodup
  mem_iff : ∀ name, name ∈ imports ↔ name ∈ importSources entity config
  /-- They stand in the order in which they first come up. -/
  ordered : imports.Pairwise fun a b =>
    (importSources entity config).idxOf a < (importSources entity config).idxOf b

theorem distinctBy_append_distinctBy {α : Type} {key : α → String} (before items after : List α) :
    distinctBy key (before ++ distinctBy key items ++ after) =
      distinctBy key (before ++ items ++ after) := by
  have inner : distinctBy key (before ++ distinctBy key items) = distinctBy key (before ++ items) := by
    rw [distinctBy_append, distinctBy_append, distinctBy_eq_self (pairwise_distinctBy key items)]
  rw [distinctBy_append, inner, distinctBy_append (before ++ items)]
  congr 1
  refine List.filter_congr fun other _ => Bool.eq_iff_iff.mpr ?_
  simp only [List.all_append, Bool.and_eq_true, List.all_eq_true, bne_iff_ne]
  refine and_congr_right fun _ => ⟨fun h item hitem => ?_, fun h item hitem =>
    h item (mem_of_mem_distinctBy hitem)⟩
  obtain ⟨first, hfirst, same⟩ : ∃ first ∈ distinctBy key items, key first = key item :=
    exists_mem_distinctBy hitem
  exact same ▸ h first hfirst

namespace Entity

variable {entity : Entity} {config : Configuration}

/-- What the sources of the imports are if an empty namespace is taken for a name. -/
def importNames (entity : Entity) (config : Configuration) : List String :=
  baseNamespaces ++ [entity.qualifier].filter (· ≠ "") ++
    entity.constraintTypes.flatMap TypeRef.qualifiers ++ config.mocking.namespaces ++
    config.fixture.namespaces

theorem importedNamespaces_eq :
    importedNamespaces entity config = distinctBy id (entity.importNames config) := by
  have own : (if entity.qualifier.isEmpty then [] else [entity.qualifier]) =
      [entity.qualifier].filter (· ≠ "") := by
    by_cases unqualified : entity.qualifier = "" <;> simp [unqualified]
  rw [importedNamespaces, constraintNamespaces, TypeRef.addAllNamespaces_nil, own, importNames,
    List.append_assoc _ config.mocking.namespaces, distinctBy_append_distinctBy,
    ← List.append_assoc]
  rfl

theorem mem_importNames_iff {name : String} :
    name ∈ entity.importNames config ↔
      ((name ∈ baseNamespaces ∨ (name = entity.qualifier ∧ name ≠ "")) ∨
        ∃ type ∈ entity.constraintTypes, name ∈ type.qualifiers) ∨
      name ∈ config.mocking.namespaces ++ config.fixture.namespaces := by
  simp only [importNames, List.mem_append, List.mem_filter, List.mem_singleton, List.mem_flatMap,
    decide_eq_true_eq, or_assoc]

theorem importSources_eq (added : "" ∉ config.mocking.namespaces ++ config.fixture.namespaces) :
    importSources entity config = (entity.importNames config).filter (· ≠ "") := by
  have base : baseNamespaces.filter (· ≠ "") = baseNamespaces := by decide
  have kept : ∀ names : List String, "" ∉ names → names.filter (· ≠ "") = names := fun names h =>
    List.filter_eq_self.mpr fun name hname => decide_eq_true (ne_of_mem_of_not_mem hname h)
  obtain ⟨mocking, fixture⟩ := not_or.mp (mt List.mem_append.mpr added)
  simp only [importSources, importNames, List.filter_append, base, kept _ mocking, kept _ fixture,
    List.filter_flatMap, List.filter_filter, Bool.and_self]
  rfl

end Entity

/-- What an accepted configuration adds has a name. -/
theorem Configuration.empty_notMem_namespaces {layers : List Layer} {nullableEnabled : Bool}
    {config : Configuration} (accepted : ofLayers layers nullableEnabled = .ok config) :
    "" ∉ config.mocking.namespaces ++ config.fixture.namespaces := by
  obtain ⟨-, rfl⟩ := ofLayers_eq_ok_iff.mp accepted
  exact fun h => (of_mem_namespaces_ofOptions h).1 rfl

/-- The imports of a builder with an accepted configuration are well-formed exactly if no constraint
of an open type parameter mentions an empty namespace at any depth. -/
theorem wellFormedImports_iff {layers : List Layer} {nullableEnabled : Bool} {config : Configuration}
    (accepted : Configuration.ofLayers layers nullableEnabled = .ok config) (entity : Entity) :
    WellFormedImports entity config (importedNamespaces entity config) ↔
      ∀ type ∈ entity.constraintTypes, type.Everywhere fun part => part.qualifier ≠ some "" := by
  have added := Configuration.empty_notMem_namespaces accepted
  rw [Entity.importedNamespaces_eq]
  constructor
  · rintro wellFormed type htype part hpart empty
    exact wellFormed.nonempty (mem_distinctBy_id_iff.mpr (Entity.mem_importNames_iff.mpr
      (.inl (.inr ⟨type, htype, List.mem_filterMap.mpr ⟨part, hpart, empty⟩⟩))))
  · intro named
    have nonempty : "" ∉ entity.importNames config := by
      rw [Entity.mem_importNames_iff]
      rintro (((base | ⟨-, unnamed⟩) | ⟨type, htype, hname⟩) | extra)
      · exact absurd base (by decide)
      · exact unnamed rfl
      · obtain ⟨part, hpart, empty⟩ := List.mem_filterMap.mp hname
        exact named type htype part hpart empty
      · exact added extra
    have sources : importSources entity config = entity.importNames config := by
      rw [Entity.importSources_eq added, List.filter_eq_self]
      exact fun name hname => decide_eq_true (ne_of_mem_of_not_mem hname nonempty)
    refine ⟨?_, fun h => nonempty (mem_distinctBy_id_iff.mp h), nodup_distinctBy_id _,
      fun name => sources ▸ mem_distinctBy_id_iff, sources ▸ pairwise_idxOf_distinctBy_id _⟩
    have base : distinctBy id baseNamespaces = baseNamespaces := by decide
    simp only [Entity.importNames, List.append_assoc]
    rw [distinctBy_append, base]
    exact List.prefix_append _ _

/-- A generic class `Box` whose type parameter has the given constraints. -/
def Compilation.ofConstraints (constraints : List TypeRef) : Compilation where
  types :=
    [{ name := "Box", qualifier := "Shop",
       typeParameters := [{ name := "T", constraintTypes := constraints }] }]

/-- Namespaces of nested arguments and of the configuration are imported behind the others, those that
have come up before are not. -/
theorem wellFormedImports_iff_comparable :
    let item := TypeRef.generic "Shop.Items" "Item" .classType [.named "" "Core" .classType]
    let constraint := TypeRef.generic "System" "IComparable" .interfaceType [item]
    let layer : Layer := ⟨.type, { mocking := { namespaces := some "Moq, ,System" } }⟩
    ∃ entity config,
      Entity.resolve (.ofConstraints [constraint]) (.named "Shop" "Box" .classType) = .ok entity ∧
      Configuration.ofLayers [layer] false = .ok config ∧
      importedNamespaces entity config =
        ["System", "System.Linq", helpersNamespace, "Shop", "Shop.Items", "Moq"] ∧
      (∀ type ∈ entity.constraintTypes, type.Everywhere fun part => part.qualifier ≠ some "") ∧
      WellFormedImports entity config (importedNamespaces entity config) := by
  intro item constraint layer
  have accepted : Configuration.ofLayers [layer] false =
      .ok (.ofOptions (.merged [layer]) false) := by decide +kernel
  have named : ∀ type ∈ [constraint], type.Everywhere fun part => part.qualifier ≠ some "" := by
    decide
  exact ⟨_, _, rfl, accepted, by decide, named, (wellFormedImports_iff accepted _).mpr named⟩

/-- A constraint in the global namespace is imported as a namespace without a name. -/
theorem not_wellFormedImports_global :
    let constraint : TypeRef := ⟨"IItem", some "", .interfaceType, [], false⟩
    ∃ entity config,
      Entity.resolve (.ofConstraints [constraint]) (.named "Shop" "Box" .classType) = .ok entity ∧
      Configuration.ofLayers [] false = .ok config ∧
      ¬ WellFormedImports entity config (importedNamespaces entity config) := by
  intro constraint
  exact ⟨_, .default, rfl, rfl, fun wellFormed => wellFormed.nonempty (by decide)⟩

end FluentGen
