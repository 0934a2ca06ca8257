import FluentGen.Naming
/-!
# Capitals

A character in upper case stays as it is in upper case. Some characters have several in upper case,
of which the first stays as it is, so that a name with its first character in upper case is the same
once this is done again.

## Main definitions
* `Text.CaseRun.misses`: a run that maps to nothing that another one maps.

## Main statements
* `Text.exists_upperCase_eq_cons`: upper case begins with a character that is in upper case.
* `pascalCase_pascalCase`: a name in pascal case stays as it is.
-/
namespace FluentGen

namespace Text

namespace CaseRun

/-- The first and the last code point that a run maps to. -/
def image (run : CaseRun) : Nat × Nat :=
  ((run.first + run.shift).toNat, (run.last + run.shift).toNat)

/-- Whether all code points that a run maps to are those of characters. -/
def IsValid (run : CaseRun) : Prop :=
  0 ≤ run.first + run.shift ∧
    (run.image.2 < 0xD800 ∨ 0xDFFF < run.image.1 ∧ run.image.2 < 0x110000)

instance (run : CaseRun) : Decidable run.IsValid :=
  inferInstanceAs (Decidable (_ ∧ _))

/-- Whether a run maps to nothing between two code points. -/
def isOutside (run : CaseRun) (first last : Nat) : Bool :=
  run.image.2.blt first || last.blt run.image.1

/-- Whether a run maps to nothing that another one maps, being outside it or between its steps. -/
def misses (run other : CaseRun) : Bool :=
  run.isOutside other.first other.last ||
    (run.step.beq 2 || run.first.beq run.last) && other.step.beq 2 &&
      ((run.image.1 + other.first) % 2).beq 1

variable {run other : CaseRun} {code : Nat}

theorem contains_iff : run.contains code = true ↔
    (run.first ≤ code ∧ code ≤ run.last) ∧ (code - run.first) % run.step = 0 := by
  simp [contains]

theorem isOutside_iff {first last : Nat} :
    run.isOutside first last = true ↔ run.image.2 < first ∨ last < run.image.1 := by
  simp [isOutside]

theorem toNat_ofNat_of_contains (valid : run.IsValid) (h : run.contains code = true) :
    ((Char.ofNat (code + run.shift).toNat).toNat : Int) = code + run.shift := by
  obtain ⟨⟨first, last⟩, -⟩ := contains_iff.mp h
  simp only [IsValid, image] at valid
  have scalar : (code + run.shift).toNat.isValidChar := by
    simp only [Nat.isValidChar]
    omega
  have same : (Char.ofNat (code + run.shift).toNat).toNat = (code + run.shift).toNat :=
    congrArg Char.toNat (dif_pos scalar)
  omega

theorem contains_eq_false_of_misses (misses : run.misses other = true)
    (h : run.contains code = true) {moved : Nat} (mapped : (moved : Int) = code + run.shift)
    (valid : run.IsValid) : other.contains moved = false := by
  obtain ⟨⟨first, last⟩, onStep⟩ := contains_iff.mp h
  simp only [CaseRun.misses, Bool.or_eq_true, Bool.and_eq_true, isOutside_iff, Nat.beq_eq,
    CaseRun.image, IsValid] at misses valid
  rw [Bool.eq_false_iff, ne_eq, contains_iff]
  rintro ⟨⟨first', last'⟩, onStep'⟩
  obtain outside | ⟨⟨even | single, even'⟩, odd⟩ := misses
  · omega
  · rw [even] at onStep
    rw [even'] at onStep'
    omega
  · rw [even'] at onStep'
    omega

end CaseRun

/-! ## Characters -/

theorem upperCase_eq_self {c : Char} (short : upperLonger.lookup c.toNat = none)
    (unmoved : ∀ run ∈ upperRuns, run.contains c.toNat = false) : upperCase c = [c] := by
  have none : upperRuns.find? (·.contains c.toNat) = none := by simpa using unmoved
  rw [upperCase, mapByTables, short, mapByRuns, none]

theorem isValid_of_mem_upperRuns : ∀ run ∈ upperRuns, run.IsValid := by
  decide +kernel

/-- What a run maps to is in upper case. -/
theorem upperCase_of_contains {run : CaseRun} {c d : Char} (listed : run ∈ upperRuns)
    (h : run.contains c.toNat = true) (moved : (d.toNat : Int) = c.toNat + run.shift) :
    upperCase d = [d] := by
  -- All pairs of runs are compared, so the tests are such that they evaluate fast on numbers.
  have runs : (upperRuns.all fun run => upperRuns.all run.misses) = true := by decide +kernel
  have longer : (upperLonger.all fun entry =>
      upperRuns.all (·.isOutside entry.1 entry.1)) = true := by decide +kernel
  refine upperCase_eq_self (List.lookup_eq_none_iff.mpr ?_) ?_
  · intro entry hentry
    have outside := List.all_eq_true.mp (List.all_eq_true.mp longer entry hentry) run listed
    rw [CaseRun.isOutside_iff] at outside
    obtain ⟨⟨first, last⟩, -⟩ := CaseRun.contains_iff.mp h
    simp only [CaseRun.image] at outside
    rw [bne_iff_ne]
    omega
  · intro other hother
    exact CaseRun.contains_eq_false_of_misses
      (List.all_eq_true.mp (List.all_eq_true.mp runs run listed) other hother) h moved
      (isValid_of_mem_upperRuns run listed)

/-- The first of the characters that a character has in upper case stays as it is. -/
theorem exists_upperCase_eq_cons (c : Char) :
    ∃ first rest, upperCase c = first :: rest ∧ upperCase first = [first] := by
  have longer : ∀ entry ∈ upperLonger, ∃ code ∈ entry.2.head?,
      upperCase (Char.ofNat code) = [Char.ofNat code] := by decide +kernel
  cases listed : upperLonger.lookup c.toNat with
  | some codes =>
    obtain ⟨before, after, table, -⟩ := List.lookup_eq_some_iff.mp listed
    obtain ⟨code, first, stays⟩ := longer (c.toNat, codes) (by simp [table])
    obtain ⟨others, rfl⟩ := List.head?_eq_some_iff.mp first
    refine ⟨Char.ofNat code, others.map Char.ofNat, ?_, stays⟩
    rw [upperCase, mapByTables, listed]
    rfl
  | none =>
    cases found : upperRuns.find? (·.contains c.toNat) with
    | none =>
      have same := upperCase_eq_self listed (by simpa using found)
      exact ⟨c, [], same, same⟩
    | some run =>
      have inside := List.find?_some found
      have hrun := List.mem_of_find?_eq_some found
      refine ⟨Char.ofNat (c.toNat + run.shift).toNat, [], ?_,
        upperCase_of_contains hrun inside
          (CaseRun.toNat_ofNat_of_contains (isValid_of_mem_upperRuns run hrun) inside)⟩
      rw [upperCase, mapByTables, listed, mapByRuns, found]

end Text

/-! ## Names -/

/-- A name in pascal case stays as it is. -/
theorem pascalCase_pascalCase (name : String) : pascalCase (pascalCase name) = pascalCase name := by
  rw [pascalCase.eq_1 name, mapFirst]
  split
  next => rfl
  next first rest _ =>
    obtain ⟨capital, others, upper, stays⟩ := Text.exists_upperCase_eq_cons first
    rw [pascalCase, mapFirst, upper]
    simp [stays]

end FluentGen
