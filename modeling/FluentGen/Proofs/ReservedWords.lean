import FluentGen.GeneratedClass
/-!
# Reserved words

All reserved words are made of small Latin letters, so that a name with anything else in it is none of
them: an underscore, an `@`, or a capital, whatever the script is.

## Main definitions
* `stripAt`: the name behind an `@`.

## Main statements
* `notMem_reservedWords_of_mem`: a text with another character than small Latin letters is not reserved.
* `Text.exists_mem_upperCase`: capitals have such a character.
* `stripAt_escapeIdentifier`: the name is read back from an escaped one.
-/
namespace FluentGen

/-! ## Characters -/

/-- A text with anything but small Latin letters is no reserved word. -/
theorem notMem_reservedWords_of_mem {text : String} {c : Char} (h : c ∈ text.toList)
    (other : c.isLower = false) : text ∉ reservedWords := by
  have lower : (reservedWords.all (·.toList.all Char.isLower)) = true := by decide +kernel
  intro reserved
  rw [List.all_eq_true.mp (List.all_eq_true.mp lower text reserved) c h] at other
  cases other

namespace Text

theorem isLower_iff {c : Char} : c.isLower = true ↔ 0x61 ≤ c.toNat ∧ c.toNat ≤ 0x7A := by
  refine Bool.and_eq_true_iff.trans (and_congr ?_ ?_)
  · exact decide_eq_true_iff.trans UInt32.le_iff_toNat_le
  · exact decide_eq_true_iff.trans UInt32.le_iff_toNat_le

/-- The character of a code point that is not one of a small Latin letter. -/
theorem isLower_ofNat {code : Nat} (h : code < 0x61 ∨ 0x7A < code) :
    (Char.ofNat code).isLower = false := by
  rw [Bool.eq_false_iff, ne_eq, isLower_iff]
  by_cases valid : code.isValidChar
  · have same : (Char.ofNat code).toNat = code := congrArg Char.toNat (dif_pos valid)
    omega
  · have null : (Char.ofNat code).toNat = 0 := congrArg Char.toNat (dif_neg valid)
    omega

/-- A character that runs map is moved out of the small Latin letters if this holds of all runs, and
one that they do not map is none of these letters if one of the runs has them. -/
theorem isLower_mapByRuns {runs : List CaseRun}
    (apart : ∀ run ∈ runs, run.last + run.shift < 0x61 ∨ 0x7A < run.first + run.shift)
    (mapped : ∃ run ∈ runs, run.first = 0x61 ∧ run.last = 0x7A ∧ run.step = 1) (c : Char) :
    (mapByRuns runs c).isLower = false := by
  rw [mapByRuns]
  split
  next run found =>
    have inside := List.find?_some found
    simp only [CaseRun.contains, Bool.and_eq_true, decide_eq_true_eq] at inside
    have moved := apart run (List.mem_of_find?_eq_some found)
    exact isLower_ofNat (by omega)
  next none =>
    rw [Bool.eq_false_iff, ne_eq, isLower_iff]
    obtain ⟨run, hrun, first, last, step⟩ := mapped
    have outside := List.find?_eq_none.mp none run hrun
    simp only [CaseRun.contains, first, last, step, Nat.mod_one, Bool.and_eq_true,
      decide_eq_true_eq, beq_iff_eq, and_true] at outside
    exact outside

/-- Not all characters of a capital are small Latin letters. -/
theorem exists_mem_upperCase (c : Char) : ∃ d ∈ upperCase c, d.isLower = false := by
  have longer : ∀ entry ∈ upperLonger, ∃ code ∈ entry.2, (Char.ofNat code).isLower = false := by
    decide +kernel
  have apart : ∀ run ∈ upperRuns,
      run.last + run.shift < 0x61 ∨ 0x7A < run.first + run.shift := by decide +kernel
  rw [upperCase, mapByTables]
  split
  next codes listed =>
    obtain ⟨before, after, table, -⟩ := List.lookup_eq_some_iff.mp listed
    obtain ⟨code, hcode, other⟩ := longer (c.toNat, codes) (by simp [table])
    exact ⟨_, List.mem_map_of_mem hcode, other⟩
  next =>
    exact ⟨_, List.mem_singleton.mpr rfl,
      isLower_mapByRuns apart ⟨_, List.mem_cons_self, rfl, rfl, rfl⟩ c⟩

end Text

/-! ## Escaped names -/

/-- The name behind an `@`, or the name if it does not begin with one. -/
def stripAt (name : String) : String :=
  match name.toList with
  | '@' :: word => String.ofList word
  | _ => name

theorem stripAt_eq_self {name : String} (h : '@' ∉ name.toList.head?) : stripAt name = name := by
  unfold stripAt
  split
  next word escaped => exact absurd (by rw [escaped]; rfl) h
  next => rfl

theorem stripAt_escapeIdentifier {name : String} (h : '@' ∉ name.toList.head?) :
    stripAt (escapeIdentifier name) = name := by
  unfold escapeIdentifier
  split
  next => simp [stripAt]
  next => exact stripAt_eq_self h

theorem escapeIdentifier_notMem_reservedWords (name : String) :
    escapeIdentifier name ∉ reservedWords := by
  unfold escapeIdentifier
  split
  next => exact notMem_reservedWords_of_mem (c := '@') (by simp) rfl
  next plain => exact plain

/-! ## Names with capitals and underscores -/

theorem exists_mem_pascalCase {name : String} (nonempty : name ≠ "") :
    ∃ c ∈ (pascalCase name).toList, c.isLower = false := by
  rw [pascalCase, mapFirst]
  split
  next empty => exact absurd (String.toList_eq_nil_iff.mp empty) nonempty
  next first rest _ =>
    obtain ⟨c, hc, other⟩ := Text.exists_mem_upperCase first
    exact ⟨c, by simp [hc], other⟩

namespace TrackedMember

variable {tracked : TrackedMember} {config : Configuration}

theorem fieldName_notMem_reservedWords (tracked : TrackedMember) :
    tracked.fieldName ∉ reservedWords :=
  notMem_reservedWords_of_mem (c := '_') (by simp [fieldName, Member.fieldName, backingFieldName])
    rfl

theorem addToName_notMem_reservedWords (tracked : TrackedMember) :
    tracked.addToName ∉ reservedWords :=
  notMem_reservedWords_of_mem (c := 'A') (by simp [addToName, names]) rfl

/-- Whatever the prefix is, a setter has the capital in its name. -/
theorem setterName_notMem_reservedWords (config : Configuration)
    (nonempty : tracked.member.name ≠ "") : tracked.setterName config ∉ reservedWords := by
  obtain ⟨c, hc, other⟩ := exists_mem_pascalCase nonempty
  refine notMem_reservedWords_of_mem (c := c) ?_ other
  rw [setterName, String.toList_append]
  exact List.mem_append_right _ hc

end TrackedMember

end FluentGen
