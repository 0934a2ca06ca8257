import FluentGen.Layout
import Mathlib.Data.List.Infix
/-!
# Texts in a layout

Where a text stands in a line of a layout it stands there at every depth, so that statements about
lines can be put together the way layouts are.

## Main definitions
* `Layout.SomeLine`: whether some line has a property.
* `Layout.Mentions`: whether a text stands in some line.
-/
namespace FluentGen

/-- Whether a text stands in another one. -/
def Within (text other : String) : Prop :=
  text.toList <:+: other.toList

instance (text other : String) : Decidable (Within text other) :=
  inferInstanceAs (Decidable (text.toList <:+: other.toList))

namespace Within

variable {text other third : String}

theorem refl (text : String) : Within text text :=
  List.infix_rfl

theorem trans (h : Within text other) (h' : Within other third) : Within text third :=
  List.IsInfix.trans h h'

theorem append_left (before : String) (h : Within text other) : Within text (before ++ other) := by
  rw [Within, String.toList_append]
  exact List.IsInfix.trans h (List.suffix_append _ _).isInfix

theorem append_right (after : String) (h : Within text other) : Within text (other ++ after) := by
  rw [Within, String.toList_append]
  exact List.IsInfix.trans h (List.prefix_append _ _).isInfix

end Within

namespace Layout

/-- Whether some line of a layout has a property, at every depth. -/
def SomeLine (P : String → Prop) (pieces : List Layout) : Prop :=
  ∀ depth, ∃ written ∈ allLines depth pieces, P written

/-- Whether a text stands in some line of a layout. -/
def Mentions (pieces : List Layout) (text : String) : Prop :=
  ∀ depth, ∃ written ∈ allLines depth pieces, Within text written

variable {P Q : String → Prop} {piece : Layout} {pieces body : List Layout} {text : String}

theorem allLines_eq_flatMap (depth : Nat) (pieces : List Layout) :
    allLines depth pieces = pieces.flatMap (lines depth) := by
  induction pieces with
  | nil => rfl
  | cons piece pieces ih => rw [allLines, ih, List.flatMap_cons]

theorem mem_allLines_of_mem {depth : Nat} {written : String} (h : piece ∈ pieces)
    (h' : written ∈ piece.lines depth) : written ∈ allLines depth pieces := by
  rw [allLines_eq_flatMap]
  exact List.mem_flatMap_of_mem h h'

theorem someLine_of_mem_line {written : String} (h : .line written ∈ pieces)
    (h' : ∀ depth, P (indentation depth ++ written)) : SomeLine P pieces := fun depth =>
  ⟨indentation depth ++ written, mem_allLines_of_mem h (by simp [lines]), h' depth⟩

theorem someLine_of_mem_block (suffix : String) (h : .block body suffix ∈ pieces)
    (h' : SomeLine P body) : SomeLine P pieces := by
  intro depth
  obtain ⟨written, hwritten, holds⟩ := h' (depth + 1)
  exact ⟨written, mem_allLines_of_mem h (by simp [lines, hwritten]), holds⟩

theorem someLine_of_mem_indented (h : .indented body ∈ pieces) (h' : SomeLine P body) :
    SomeLine P pieces := by
  intro depth
  obtain ⟨written, hwritten, holds⟩ := h' (depth + 1)
  exact ⟨written, mem_allLines_of_mem h (by simpa [lines] using hwritten), holds⟩

theorem SomeLine.imp (h : SomeLine P pieces) (weaker : ∀ written, P written → Q written) :
    SomeLine Q pieces := by
  intro depth
  obtain ⟨written, hwritten, holds⟩ := h depth
  exact ⟨written, hwritten, weaker written holds⟩

theorem SomeLine.mono {others : List Layout} (h : SomeLine P pieces) (sub : pieces ⊆ others) :
    SomeLine P others := by
  intro depth
  obtain ⟨written, hwritten, holds⟩ := h depth
  rw [allLines_eq_flatMap, List.mem_flatMap] at hwritten
  obtain ⟨piece, hpiece, hlines⟩ := hwritten
  exact ⟨written, mem_allLines_of_mem (sub hpiece) hlines, holds⟩

theorem mentions_of_mem_line {written : String} (h : .line written ∈ pieces)
    (h' : Within text written) : Mentions pieces text :=
  someLine_of_mem_line h fun _ => h'.append_left _

theorem mentions_of_mem_block (suffix : String) (h : .block body suffix ∈ pieces)
    (h' : Mentions body text) : Mentions pieces text :=
  someLine_of_mem_block suffix h h'

theorem Mentions.of_within {other : String} (h : Mentions pieces other)
    (h' : Within text other) : Mentions pieces text :=
  SomeLine.imp h fun _ => h'.trans

theorem Mentions.mono {others : List Layout} (h : Mentions pieces text) (sub : pieces ⊆ others) :
    Mentions others text :=
  SomeLine.mono h sub

end Layout

end FluentGen
