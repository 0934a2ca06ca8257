import FluentGen.Proofs.Reporting
/-!
# The location of an overridden method

That the author wrote the method that builds is decided by looking for a method of its name without
parameters that is not static. Where it is reported is decided by looking for a method of its name that
has a location. The two searches may come to different overloads.

## Main definitions
* `Method.OverridesBuild`: whether a method takes the place of the one that builds.
* `NamedType.firstLocated?`: the overload that the location is taken from.
* `IsOverrideLocation`: whether a location is that of a method which takes this place.

## Main statements
* `reportsOverride_iff`: when the report on an overridden method points at it.
-/
namespace FluentGen

/-- Whether a method takes the place of the one that builds. -/
def Method.OverridesBuild (method : Method) : Prop :=
  method.name = names.build ∧ method.isStatic = false ∧ method.parameters = []

instance (method : Method) : Decidable method.OverridesBuild :=
  inferInstanceAs (Decidable (_ ∧ _))

/-- The first overload that has a location. -/
def NamedType.firstLocated? (builder : NamedType) (name : String) : Option Method :=
  (builder.overloads name).find? (·.location.isSome)

/-- Whether a location points at a method that takes the place of the one that builds, or else at the
class. -/
structure IsOverrideLocation (builder : NamedType) (location : Option Location) : Prop where
  located : (∃ method ∈ builder.methods, method.OverridesBuild ∧ method.location ≠ none) →
    ∃ method ∈ builder.methods, method.OverridesBuild ∧ method.location ≠ none ∧
      location = method.location
  unlocated : (∀ method ∈ builder.methods, method.OverridesBuild → method.location = none) →
    location = builder.location
  /-- It is the location of no other overload, if that one stands elsewhere. -/
  never : ∀ method ∈ builder.methods, method.name = names.build → ¬ method.OverridesBuild →
    (∀ override ∈ builder.methods, override.OverridesBuild → override.location ≠ method.location) →
      method.location ≠ builder.location → location ≠ method.location

/-- There is one report that the author wrote the method that builds, and it points there. -/
def ReportsOverride (builder : NamedType) (reports : List Diagnostic) : Prop :=
  ∃ report, reports.filter (·.kind.id == "BSG001") = [report] ∧
    IsOverrideLocation builder report.location

variable {model : Compilation} {entity : Entity} {config : Configuration} {builder : NamedType}

theorem isOverrideLocation_iff {location : Option Location} :
    IsOverrideLocation builder location ↔
      (∃ method ∈ builder.methods, method.OverridesBuild ∧ method.location ≠ none ∧
        location = method.location) ∨
      ((∀ method ∈ builder.methods, method.OverridesBuild → method.location = none) ∧
        location = builder.location) := by
  constructor
  · intro points
    by_cases unlocated : ∀ method ∈ builder.methods, method.OverridesBuild → method.location = none
    · exact .inr ⟨unlocated, points.unlocated unlocated⟩
    · push Not at unlocated
      exact .inl (points.located unlocated)
  · rintro (⟨override, hmem, overrides, located, rfl⟩ | ⟨unlocated, rfl⟩)
    · refine ⟨fun _ => ⟨override, hmem, overrides, located, rfl⟩, fun unlocated => ?_, ?_⟩
      · exact absurd (unlocated override hmem overrides) located
      · exact fun _ _ _ _ apart _ => apart override hmem overrides
    · refine ⟨?_, fun _ => rfl, fun _ _ _ _ _ elsewhere => elsewhere.symm⟩
      rintro ⟨override, hmem, overrides, located⟩
      exact absurd (unlocated override hmem overrides) located

/-! ## Where the report points -/

theorem findSome?_location (methods : List Method) :
    methods.findSome? (·.location) = (methods.find? (·.location.isSome)).bind (·.location) := by
  induction methods with
  | nil => rfl
  | cons method methods ih => cases at_ : method.location <;> simp [at_, ih]

theorem NamedType.isSome_location_of_firstLocated? {name : String} {first : Method}
    (h : builder.firstLocated? name = some first) : first.location.isSome = true := by
  simpa using List.find?_some h

theorem NamedType.locationOf_eq (name : String) : builder.locationOf name =
    (builder.firstLocated? name).elim builder.location (·.location) := by
  rw [locationOf, findSome?_location, ← firstLocated?]
  cases found : builder.firstLocated? name with
  | none => rfl
  | some first => simp [Option.or_of_isSome (isSome_location_of_firstLocated? found)]

/-- Where no overload has a location, no method that takes its place has one. -/
theorem Method.OverridesBuild.location_eq_none {method : Method}
    (unlocated : builder.firstLocated? names.build = none) (hmem : method ∈ builder.methods)
    (overrides : method.OverridesBuild) : method.location = none := by
  have hoverload := NamedType.mem_overloads_iff.mpr ⟨hmem, overrides.1⟩
  simpa using List.find?_eq_none.mp unlocated method hoverload

variable (model entity config) in
/-- Of all reports one is that the author wrote the method that builds. -/
theorem filter_buildOverride (written : builder.hasBuild = true) :
    (synthesize model entity config builder).diagnostics.filter (·.kind.id == "BSG001") =
      [⟨.buildOverride, builder.locationOf names.build, [builder.name]⟩] := by
  have skipped : ((planMembers model entity config builder).skipped.map
      (·.diagnostic builder)).filter (·.kind.id == "BSG001") = [] := by
    simp [List.filter_eq_nil_iff, SkippedMember.diagnostic, DiagnosticKind.id]
  have constructed : (constructorDiagnostics builder).filter (·.kind.id == "BSG001") = [] := by
    rw [constructorDiagnostics]
    split <;> rfl
  have many : (buildManyDiagnostics builder).filter (·.kind.id == "BSG001") = [] := by
    rw [buildManyDiagnostics]
    split <;> rfl
  rw [diagnostics_synthesize, buildingDiagnostics, List.filter_append, List.filter_append,
    List.filter_append, skipped, constructed, many, buildDiagnostics, if_pos written]
  rfl

/-- The report points at the method that it is about exactly where the first overload with a location,
if there is one, stands where such a method does, or where the class does if no such method has a
location. -/
theorem reportsOverride_iff
    (overridden : ∃ method ∈ builder.methods, method.OverridesBuild) :
    ReportsOverride builder (synthesize model entity config builder).diagnostics ↔
      ∀ first, builder.firstLocated? names.build = some first →
        (∃ method ∈ builder.methods, method.OverridesBuild ∧ method.location = first.location) ∨
        ((∀ method ∈ builder.methods, method.OverridesBuild → method.location = none) ∧
          first.location = builder.location) := by
  have reported := filter_buildOverride model entity config (NamedType.hasBuild_iff.mpr overridden)
  simp only [ReportsOverride, reported, List.cons.injEq, and_true, exists_eq_left',
    isOverrideLocation_iff, NamedType.locationOf_eq]
  cases found : builder.firstLocated? names.build with
  | none =>
    -- The report falls back to the class, as it should: no method that it is about has a location.
    exact iff_of_true (.inr ⟨fun _ hmem overrides => overrides.location_eq_none found hmem, rfl⟩)
      fun _ => nofun
  | some first =>
    have located : first.location ≠ none :=
      Option.isSome_iff_ne_none.mp (NamedType.isSome_location_of_firstLocated? found)
    simp only [Option.elim_some, Option.some.injEq, forall_eq']
    grind

/-- A method that takes the place of the one that builds. -/
def plainBuild : Method where
  name := "Build"
  location := some ⟨"OrderBuilder.cs", 9, 5⟩

/-- An overload with a parameter. -/
def seededBuild : Method where
  name := "Build"
  parameters := [⟨"seed", .keyword "int"⟩]
  location := some ⟨"OrderBuilder.cs", 3, 5⟩

/-- A hand-written part that has the given methods. -/
def builderOfMethods (methods : List Method) : NamedType where
  name := "OrderBuilder"
  methods := methods
  location := some ⟨"OrderBuilder.cs", 1, 1⟩

/-- The report points at the method that it is about if this comes first. -/
theorem reportsOverride_plain_seeded : ∃ entity config,
    Entity.resolve (.ofParameters []) (.named "Shop" "Order" .classType) = .ok entity ∧
    Configuration.ofLayers [] false = .ok config ∧
    (∃ method ∈ (builderOfMethods [plainBuild, seededBuild]).methods, method.OverridesBuild) ∧
    ReportsOverride (builderOfMethods [plainBuild, seededBuild])
      (synthesize (.ofParameters []) entity config
        (builderOfMethods [plainBuild, seededBuild])).diagnostics := by
  have overridden : ∃ method ∈ (builderOfMethods [plainBuild, seededBuild]).methods,
      method.OverridesBuild := by decide
  refine ⟨_, _, rfl, rfl, overridden, (reportsOverride_iff overridden).mpr ?_⟩
  intro first found
  obtain rfl : plainBuild = first := Option.some.inj found
  exact .inl ⟨plainBuild, by decide, by decide, rfl⟩

/-- The report points at the overload with a parameter if that one comes first. -/
theorem not_reportsOverride_seeded_plain : ∃ entity config,
    Entity.resolve (.ofParameters []) (.named "Shop" "Order" .classType) = .ok entity ∧
    Configuration.ofLayers [] false = .ok config ∧
    plainBuild.OverridesBuild ∧
    ¬ ReportsOverride (builderOfMethods [seededBuild, plainBuild])
      (synthesize (.ofParameters []) entity config
        (builderOfMethods [seededBuild, plainBuild])).diagnostics := by
  refine ⟨_, _, rfl, rfl, by decide, ?_⟩
  rintro ⟨report, reported, points⟩
  rw [filter_buildOverride _ _ _ rfl] at reported
  obtain rfl := (List.cons.inj reported).1
  exact absurd (isOverrideLocation_iff.mp points) (by decide +kernel)

end FluentGen
