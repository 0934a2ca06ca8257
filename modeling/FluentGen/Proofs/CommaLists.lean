import FluentGen.Proofs.Numerals
import FluentGen.Text.Blank
import Mathlib.Data.List.DropRight
import Mathlib.Data.List.Forall2
/-!
# Lists between commas

Trimming takes away the white space at the two ends of a text and nothing else. A list is what stands
between the commas of a text, trimmed, where it shows anything.

## Main definitions
* `Text.whiteSpace`: the white space characters, one by one.
* `Text.Shows`: whether a text has anything but white space.
* `Text.IsTrimOf`: whether a text is another one without the white space at its ends.
* `Text.Lists`: whether texts are the items of a list.

## Main statements
* `Text.isTrimOf_iff`: trimming gives the only such text.
* `Text.lists_iff`: splitting at commas gives the only such items.
-/
namespace FluentGen.Text

/-- The characters with the Unicode property `White_Space`, one by one. -/
def whiteSpace : List Nat :=
  [0x9, 0xA, 0xB, 0xC, 0xD, 0x20, 0x85, 0xA0, 0x1680, 0x2000, 0x2001, 0x2002, 0x2003, 0x2004, 0x2005,
    0x2006, 0x2007, 0x2008, 0x2009, 0x200A, 0x2028, 0x2029, 0x202F, 0x205F, 0x3000]

theorem isBlank_iff {c : Char} : isBlank c = true ↔ c.toNat ∈ whiteSpace := by
  rw [isBlank, CharSet.contains_iff]
  simp only [blankSet, whiteSpace, List.mem_cons, List.not_mem_nil, or_false, exists_eq_or_imp,
    exists_eq_left]
  omega

/-- Whether a text has anything but white space. -/
def Shows (text : String) : Prop :=
  ∃ c ∈ text.toList, c.toNat ∉ whiteSpace

instance (text : String) : Decidable (Shows text) :=
  inferInstanceAs (Decidable (∃ c ∈ text.toList, _))

theorem isBlankText_eq_false_iff {text : String} : isBlankText text = false ↔ Shows text := by
  simp [isBlankText, Shows, ← isBlank_iff]

/-! ## Trimming -/

/-- Whether a text is another one without the white space at its ends. -/
structure IsTrimOf (text trimmed : String) : Prop where
  split : ∃ before after, text.toList = before ++ trimmed.toList ++ after ∧
    ∀ c ∈ before ++ after, c.toNat ∈ whiteSpace
  head : ∀ c ∈ trimmed.toList.head?, c.toNat ∉ whiteSpace
  last : ∀ c ∈ trimmed.toList.getLast?, c.toNat ∉ whiteSpace

theorem dropWhile_append_of_blank {before rest : List Char} (h : ∀ c ∈ before, isBlank c = true)
    (h' : ∀ c ∈ rest.head?, isBlank c = false) : (before ++ rest).dropWhile isBlank = rest := by
  rw [List.dropWhile_append_of_pos h]
  cases rest with
  | nil => rfl
  | cons c rest => exact List.dropWhile_cons_of_neg (by simp [h' c rfl])

theorem trimEnd_append_of_blank {text after : List Char} (h : ∀ c ∈ after, isBlank c = true)
    (h' : ∀ c ∈ text.getLast?, isBlank c = false) : trimEnd (text ++ after) = text := by
  rw [trimEnd, List.reverse_append, dropWhile_append_of_blank, List.reverse_reverse]
  · exact fun c hc => h c (List.mem_reverse.mp hc)
  · simpa using h'

theorem isBlank_of_mem_head?_dropWhile {text : List Char} {c : Char}
    (h : c ∈ (text.dropWhile isBlank).head?) : isBlank c = false := by
  have first := List.head?_dropWhile_not isBlank text
  rwa [Option.mem_def.mp h] at first

theorem isTrimOf_trim (text : String) : IsTrimOf text (trim text) := by
  have back := List.rdropWhile_append_rtakeWhile (p := isBlank) (l := text.toList.dropWhile isBlank)
  have trimmed : (trim text).toList = (text.toList.dropWhile isBlank).rdropWhile isBlank := by
    rw [trim, String.toList_ofList]
    rfl
  constructor
  · refine ⟨text.toList.takeWhile isBlank, (text.toList.dropWhile isBlank).rtakeWhile isBlank, ?_, ?_⟩
    · rw [trimmed, List.append_assoc, back, List.takeWhile_append_dropWhile]
    · simp only [← isBlank_iff, List.forall_mem_append]
      exact ⟨fun c => List.mem_takeWhile_imp, fun c => List.mem_rtakeWhile_imp⟩
  · intro c hc
    obtain ⟨after, kept⟩ := List.rdropWhile_prefix isBlank (text.toList.dropWhile isBlank)
    have first : c ∈ (text.toList.dropWhile isBlank).head? := by
      rw [trimmed, Option.mem_def] at hc
      rw [← kept, Option.mem_def, List.head?_append, hc]
      rfl
    rw [← isBlank_iff, isBlank_of_mem_head?_dropWhile first]
    exact Bool.false_ne_true
  · intro c hc
    rw [trimmed, List.rdropWhile, List.getLast?_reverse] at hc
    rw [← isBlank_iff, isBlank_of_mem_head?_dropWhile hc]
    exact Bool.false_ne_true

/-- Trimming gives the only text without the white space at the ends. -/
theorem isTrimOf_iff {text trimmed : String} : IsTrimOf text trimmed ↔ trimmed = trim text := by
  constructor
  · rintro ⟨⟨before, after, split, blank⟩, head, last⟩
    simp only [← isBlank_iff, List.forall_mem_append, Bool.not_eq_true] at blank head last
    obtain ⟨before', after'⟩ := blank
    apply String.toList_injective
    rw [trim, String.toList_ofList, split, List.append_assoc]
    cases shown : trimmed.toList with
    | nil =>
      have none : (before ++ after).dropWhile isBlank = [] :=
        List.dropWhile_eq_nil_iff.mpr (List.forall_mem_append.mpr ⟨before', after'⟩)
      rw [List.nil_append, none]
      rfl
    | cons first rest =>
      rw [← shown, dropWhile_append_of_blank before', trimEnd_append_of_blank after' last]
      rw [shown] at head ⊢
      exact head
  · rintro rfl
    exact isTrimOf_trim text

theorem trim_eq_empty_iff {text : String} : trim text = "" ↔ ¬ Shows text := by
  rw [← isBlankText_eq_false_iff, Bool.not_eq_false, isBlankText, List.all_eq_true]
  constructor
  · intro empty
    obtain ⟨before, after, split, blank⟩ := (isTrimOf_trim text).split
    simp only [← isBlank_iff] at blank
    rw [empty] at split
    rw [split]
    simpa using blank
  · intro blank
    exact (isTrimOf_iff.mp ⟨⟨text.toList, [], by simp, by simpa [← isBlank_iff] using blank⟩,
      by simp, by simp⟩).symm

/-! ## Lists -/

/-- Whether texts are the items of a list: what stands between its commas, trimmed, where that shows
anything. -/
def Lists (text : String) (items : List String) : Prop :=
  ∃ pieces : List String, text = ",".intercalate pieces ∧ (∀ piece ∈ pieces, ',' ∉ piece.toList) ∧
    List.Forall₂ IsTrimOf (pieces.filter (Shows ·)) items

theorem forall₂_isTrimOf_iff {pieces items : List String} :
    List.Forall₂ IsTrimOf (pieces.filter (Shows ·)) items ↔
      items = (pieces.map trim).filter (!·.isEmpty) := by
  have trims : IsTrimOf = fun text trimmed => trim text = trimmed := by
    funext text trimmed
    rw [isTrimOf_iff, eq_comm (a := trimmed)]
  have shown : (pieces.map trim).filter (!·.isEmpty) = (pieces.filter (Shows ·)).map trim := by
    rw [List.filter_map]
    refine congrArg _ (List.filter_congr fun piece _ => ?_)
    by_cases shows : Shows piece <;> simp [shows, trim_eq_empty_iff]
  rw [trims, ← List.forall₂_map_left_iff (f := trim), List.forall₂_eq_eq_eq, shown, eq_comm]

/-- Splitting at commas gives the only items of a list. -/
theorem lists_iff {text : String} {items : List String} :
    Lists text items ↔ items = commaItems text := by
  simp only [Lists, forall₂_isTrimOf_iff]
  constructor
  · rintro ⟨pieces, rfl, apart, rfl⟩
    cases pieces with
    | nil => rfl
    | cons first others =>
      have separate : ∀ piece ∈ (first :: others).map String.toList, ',' ∉ piece :=
        List.forall_mem_map.mpr apart
      have comma : ",".toList = [','] := rfl
      rw [commaItems, String.toList_intercalate, comma,
        List.splitOn_intercalate ',' separate (List.cons_ne_nil _ _), List.map_map]
      simp only [Function.comp_def, String.ofList_toList]
  · rintro rfl
    refine ⟨(text.toList.splitOn ',').map String.ofList, String.toList_injective ?_,
      List.forall_mem_map.mpr fun piece hpiece => ?_, by rw [List.map_map]; rfl⟩
    · rw [String.toList_intercalate, List.map_map]
      simp [Function.comp_def]
    · rw [String.toList_ofList]
      exact notMem_of_mem_splitOn hpiece

end FluentGen.Text
