import FluentGen.Proofs.MemberMethods
import FluentGen.Proofs.Partition
/-!
# Fields of the required type

A hand-written field stands for the one behind a member if it has the type that the generated field
would have. For a mock the texts of types are compared, with or without namespaces. For a box the texts
are compared as well, but one of them ends in a question mark and the other one does not. So it is the
references that decide, namespaces and kinds included.

## Main definitions
* `Field.BearsRequiredType`: whether the type of a field is spelled as is required.
* `UsesWritten`: what it means that a member uses the field that the author wrote.
* `AcceptsRequired`: whether this holds wherever the field is spelled as is required.

## Main statements
* `Field.isCompatible_box_iff`: which fields stand for a box.
* `acceptsRequired_iff`: when all fields of the required type are used.
-/
namespace FluentGen

/-- The type that the field behind a member has to have, with or without the namespaces of the type of
the member. -/
def requiredType (config : Configuration) (member : Member) (mockable : Bool) (style : NameStyle) :
    String :=
  if mockable then Text.expand config.mocking.typeFormat [member.type.bare.render style]
  else "NullBox<" ++ member.type.render style ++ ">?"

/-- Whether the type of a field, with or without namespaces, has the text that is required. -/
def Field.BearsRequiredType (config : Configuration) (member : Member) (mockable : Bool)
    (field : Field) : Prop :=
  ∃ style style', field.type.render style = requiredType config member mockable style'

/-- A member uses the field that the author wrote for it: it is tracked, no field of the name is
generated, and no report tells that the member is left out. -/
structure UsesWritten (model : Compilation) (entity : Entity) (config : Configuration)
    (builder : NamedType) (member : Member) : Prop where
  tracked : ∃ tracked ∈ (planMembers model entity config builder).tracked,
    tracked.member = member ∧ tracked.declaresField = false
  undeclared : ∀ field ∈ (GeneratedClass.of model entity config builder).fields,
    field.name ≠ member.fieldName
  unreported : ∀ report ∈ (synthesize model entity config builder).diagnostics,
    report.kind = .incompatibleField → report.arguments.getLast? ≠ some member.name

/-- Every hand-written field with the name and the type of the field behind a member is used. -/
def AcceptsRequired (model : Compilation) (entity : Entity) (config : Configuration)
    (builder : NamedType) : Prop :=
  ∀ member ∈ entity.candidates config.builder.unreachableSetters,
    ∀ field, builder.field? member.fieldName = some field →
      field.BearsRequiredType config member (classify model config member.type).mockable →
        UsesWritten model entity config builder member

/-! ## The type of a box -/

namespace TypeRef

variable {type : TypeRef}

theorem getLast?_render_of_nullable (h : type.nullable = true) (style : NameStyle) :
    (type.render style).toList.getLast? = some '?' := by
  rw [render.eq_def]
  split <;> simp_all [List.getLast?_cons]

theorem getLast?_render_boxOf (style : NameStyle) :
    ((boxOf type).render style).toList.getLast? = some '>' := by
  cases style <;>
    simp [boxOf, generic, render, renderOthers, helpersNamespace, List.getLast?_cons]

/-- No annotated reference has the text of a box. -/
theorem render_ne_boxOf {other : TypeRef} (h : type.nullable = true) (style : NameStyle) :
    type.render style ≠ (boxOf other).render style := by
  intro same
  have last := getLast?_render_of_nullable h style
  rw [same, getLast?_render_boxOf] at last
  cases last

end TypeRef

namespace Field

variable {field : Field} {config : Configuration} {member : Member}

/-- A field stands for a box if its type is one that may be absent, up to annotations inside. -/
theorem isCompatible_box_iff : field.isCompatible config member false = true ↔
    field.type.nullable = true ∧
      field.type.unannotated = (boxOf member.type).unannotated := by
  simp only [isCompatible, Bool.false_eq_true, if_false, Bool.and_eq_true,
    TypeRef.sameTypeName_iff, TypeRef.SameName]
  refine and_congr_right fun nullable => ⟨?_, .inl⟩
  -- One text ends in a question mark and the other one does not, so the references have to be equal.
  rintro (same | simple | full)
  · exact same
  · exact absurd simple (TypeRef.render_ne_boxOf nullable .simple)
  · exact absurd full (TypeRef.render_ne_boxOf nullable .full)

/-- A field stands for a mock if its type is spelled as is required. -/
theorem isCompatible_mock_iff : field.isCompatible config member true = true ↔
    field.BearsRequiredType config member true := by
  simp only [isCompatible, if_true, BearsRequiredType, requiredType, TypeRef.display,
    TypeRef.simpleDisplay, List.any_cons, List.any_nil, Bool.or_false, Bool.or_eq_true, beq_iff_eq]
  constructor
  · rintro ((full | simple) | (full | simple))
    exacts [⟨.full, .full, full⟩, ⟨.simple, .full, simple⟩, ⟨.full, .simple, full⟩,
      ⟨.simple, .simple, simple⟩]
  · rintro ⟨style, style', same⟩
    cases style <;> cases style' <;> simp [same]

end Field

/-! ## Which fields are used -/

variable {model : Compilation} {entity : Entity} {config : Configuration} {builder : NamedType}
  {member : Member} {field : Field}

theorem usesWritten_iff (hmember : member ∈ entity.candidates config.builder.unreachableSetters)
    (written : builder.field? member.fieldName = some field) :
    UsesWritten model entity config builder member ↔
      field.isCompatible config member (classify model config member.type).mockable = true := by
  constructor
  · intro uses
    obtain ⟨tracked, hmem, rfl, -⟩ := uses.tracked
    have blocked := (exists_mem_tracked_iff.mp ⟨tracked, hmem, rfl⟩).2
    exact isBlocked_eq_false_iff.mp blocked field written
  · intro compatible
    have unblocked : member.isBlocked model config builder = false := by
      rw [isBlocked_eq_false_iff, written]
      rintro _ ⟨⟩
      exact compatible
    obtain ⟨tracked, hmem, rfl⟩ := exists_mem_tracked_iff.mpr ⟨hmember, unblocked⟩
    refine ⟨⟨tracked, hmem, rfl, ?_⟩, ?_, ?_⟩
    · rw [(mem_tracked_iff.mp hmem).2.declaresField, TrackedMember.fieldName, written]
      rfl
    · intro generated hgenerated same
      obtain ⟨hfield, name⟩ := NamedType.mem_of_field? written
      exact GeneratedClass.name_ne_of_mem_fields hgenerated hfield (name.trans same.symm)
    · intro report hreport kind last
      have skips : report ∈ (planMembers model entity config builder).skipped.map
          (·.diagnostic builder) := by
        rw [← filter_diagnostics_synthesize]
        exact List.mem_filter.mpr ⟨hreport, by rw [kind]; rfl⟩
      obtain ⟨skipped, hskipped, rfl⟩ := List.mem_map.mp skips
      have name : skipped.member.pascalName = tracked.member.pascalName :=
        congrArg pascalCase (Option.some.inj last)
      have absent := MemberPlan.not_skips_of_mem_tracked hmem
      rw [MemberPlan.skips_iff.mpr ⟨skipped, hskipped, name⟩] at absent
      cases absent

/-- All fields of the required type are used exactly where those in the place of a box are references
to the box itself, of the same namespaces and kinds at every depth. -/
theorem acceptsRequired_iff : AcceptsRequired model entity config builder ↔
    ∀ member ∈ entity.candidates config.builder.unreachableSetters,
      (classify model config member.type).mockable = false →
        ∀ field, builder.field? member.fieldName = some field →
          field.BearsRequiredType config member false →
            field.type.nullable = true ∧
              field.type.unannotated = (boxOf member.type).unannotated := by
  constructor
  · intro accepts member hmember boxed field written bears
    have uses := accepts member hmember field written (boxed ▸ bears)
    rw [usesWritten_iff hmember written, boxed, Field.isCompatible_box_iff] at uses
    exact uses
  · intro boxes member hmember field written bears
    rw [usesWritten_iff hmember written]
    cases mock : (classify model config member.type).mockable with
    | true => exact Field.isCompatible_mock_iff.mpr (mock ▸ bears)
    | false =>
      exact Field.isCompatible_box_iff.mpr (boxes member hmember mock field written (mock ▸ bears))

/-- A hand-written part with the field of a member, whose type is spelled without its namespace. -/
def boxedBuilder : NamedType where
  name := "OrderBuilder"
  fields :=
    [{ name := "_x", type := (TypeRef.generic "" "NullBox" .structType [.keyword "int"]).asNullable }]

/-- A field of type `NullBox<int>?` is refused because `NullBox<int>?` is required. -/
theorem not_acceptsRequired_unqualified : ∃ entity config,
    Entity.resolve (.ofParameters [⟨"x", .keyword "int"⟩]) (.named "Shop" "Order" .classType) =
      .ok entity ∧
    Configuration.ofLayers [] false = .ok config ∧
    ¬ AcceptsRequired (.ofParameters [⟨"x", .keyword "int"⟩]) entity config boxedBuilder := by
  refine ⟨_, _, rfl, rfl, fun accepts => ?_⟩
  have uses := accepts _ List.mem_cons_self _ rfl ⟨.full, .full, by decide +kernel⟩
  rw [usesWritten_iff List.mem_cons_self rfl] at uses
  exact absurd uses (by decide +kernel)

end FluentGen
