import Mathlib.Data.List.Basic
/-!
# Separators and numbers inside texts

What stands between separators has none in it, what stands behind the last separator of a text can
be told from what stands before it, and decimal digits tell the number that they spell.
-/
namespace FluentGen

theorem eq_of_append_cons_eq {α : Type} {before before' after after' : List α} {a b : α}
    (h : b ∉ after) (h' : a ∉ after') (same : before ++ a :: after = before' ++ b :: after') :
    a = b ∧ after = after' := by
  obtain ⟨between, -, rest⟩ | ⟨between, -, rest⟩ := List.append_eq_append_iff.mp same
  · cases between with
    | nil => simpa using rest
    | cons c between =>
      obtain ⟨-, rfl⟩ := List.cons.inj rest
      exact absurd (by simp) h
  · cases between with
    | nil => simpa [eq_comm] using rest
    | cons c between =>
      obtain ⟨-, rfl⟩ := List.cons.inj rest
      exact absurd (by simp) h'

/-- No piece of a text holds the separator that it was split at. -/
theorem Text.notMem_of_mem_splitOn {separator : Char} {text piece : List Char}
    (h : piece ∈ text.splitOn separator) : separator ∉ piece := by
  induction text generalizing piece with
  | nil => simp_all
  | cons c text ih =>
    rw [List.splitOn_cons_eq_if_modifyHead] at h
    -- A separator ends a piece; any other character is put in front of the next piece.
    split at h
    · obtain rfl | h := List.mem_cons.mp h
      · exact List.not_mem_nil
      · exact ih h
    · cases pieces : text.splitOn separator with
      | nil => simp [pieces] at h
      | cons first others =>
        rw [pieces, List.modifyHead_cons] at h
        grind

theorem notMem_toDigits (n : Nat) {c : Char} (h : c.isDigit = false) : c ∉ Nat.toDigits 10 n := by
  intro mem
  rw [Nat.isDigit_of_mem_toDigits (by decide) (by decide) mem] at h
  cases h

theorem toDigits_inj {m n : Nat} : Nat.toDigits 10 m = Nat.toDigits 10 n ↔ m = n := by
  constructor
  · intro same
    calc
      m = Nat.ofDigitChars 10 (Nat.toDigits 10 m) 0 := Nat.ofDigitChars_ten_toDigits.symm
      _ = Nat.ofDigitChars 10 (Nat.toDigits 10 n) 0 := by rw [same]
      _ = n := Nat.ofDigitChars_ten_toDigits
  · exact congrArg _

end FluentGen
