import FluentGen.Proofs.Numerals
import FluentGen.Text.Template
/-!
# Templates and what fills them

A template is written from parts: texts that stand for themselves, with their braces doubled, and
numbers of arguments between braces. Its expansion has the texts as they are, and the arguments in
the places of their numbers.

## Main definitions
* `TemplatePart`: a text that stands for itself, or the number of an argument.
* `TemplatePart.written`, `TemplatePart.filled`: a part as a template has it, and as its expansion
  has it.
* `ClosesAlone`: whether a closing brace in front of a text stands for itself.

## Main statements
* `expandChars_placeholder`, `expandChars_missing`: a placeholder with and without an argument.
* `closesAlone_written`: braces on both sides of the end of a placeholder do not get mixed up.
* `expand_written`: the expansion of a template.
-/
namespace FluentGen.Text

/-- A part of a template. -/
inductive TemplatePart where
  | literal (text : String)
  | placeholder (index : Nat)
  deriving DecidableEq, Repr

/-- A character as it stands in a template: braces are doubled. -/
def doubled (c : Char) : List Char :=
  if c = '{' ∨ c = '}' then [c, c] else [c]

/-- The text with every brace doubled. -/
def doubleBraces (text : String) : String :=
  String.ofList (text.toList.flatMap doubled)

/-- The number of an argument between braces. -/
def placeholderText (index : Nat) : String :=
  "\x7b" ++ toString index ++ "\x7d"

namespace TemplatePart

/-- The part as a template has it. -/
def written : TemplatePart → String
  | literal text => doubleBraces text
  | placeholder index => placeholderText index

/-- The part as the expansion has it: a placeholder without an argument stays as it is. -/
def filled (arguments : List String) : TemplatePart → String
  | literal text => text
  | placeholder index =>
    if h : index < arguments.length then arguments[index] else placeholderText index

end TemplatePart

variable {arguments : List String} {text rest : List Char} {index : Nat}

/-! ## Characters of a template -/

theorem toList_doubleBraces (text : String) :
    (doubleBraces text).toList = text.toList.flatMap doubled :=
  String.toList_ofList

theorem toList_placeholderText (index : Nat) :
    (placeholderText index).toList = '{' :: (Nat.toDigits 10 index ++ ['}']) := by
  simp [placeholderText, Nat.toString_eq_repr, Nat.toList_repr]

theorem expandChars_cons_of_ne {c : Char} (opening : c ≠ '{') (closing : c ≠ '}') :
    expandChars arguments (c :: rest) = c :: expandChars arguments rest :=
  expandChars.eq_5 _ _ _ (fun _ h => absurd h opening) (fun _ h => absurd h closing) opening

/-- What is written for a character stands for it, whatever follows. -/
theorem expandChars_doubled (c : Char) (rest : List Char) :
    expandChars arguments (doubled c ++ rest) = c :: expandChars arguments rest := by
  by_cases opening : c = '{'
  · subst opening
    exact expandChars.eq_2 arguments rest
  · by_cases closing : c = '}'
    · subst closing
      exact expandChars.eq_3 arguments rest
    · rw [doubled, if_neg (not_or.mpr ⟨opening, closing⟩)]
      exact expandChars_cons_of_ne opening closing

theorem expandChars_flatMap_doubled (arguments : List String) (text rest : List Char) :
    expandChars arguments (text.flatMap doubled ++ rest) = text ++ expandChars arguments rest := by
  induction text with
  | nil => rfl
  | cons c text ih =>
    rw [List.flatMap_cons, List.append_assoc, expandChars_doubled, ih, List.cons_append]

/-- Characters that are no braces stand for themselves. -/
theorem expandChars_append_of_forall_ne (plain : ∀ c ∈ text, c ≠ '{' ∧ c ≠ '}') :
    expandChars arguments (text ++ rest) = text ++ expandChars arguments rest := by
  induction text with
  | nil => rfl
  | cons c text ih =>
    obtain ⟨⟨opening, closing⟩, plain⟩ := List.forall_mem_cons.mp plain
    rw [List.cons_append, expandChars_cons_of_ne opening closing, ih plain, List.cons_append]

/-! ## Placeholders -/

theorem natural?_toDigits (index : Nat) : natural? (Nat.toDigits 10 index) = some index := by
  have digits : (Nat.toDigits 10 index).any (!·.isDigit) = false := by
    simpa using fun c hc => Nat.isDigit_of_mem_toDigits (by decide) (by decide) hc
  simp [natural?, digits, Nat.toDigits_ne_nil, Nat.ofDigitChars_ten_toDigits]

theorem word?_toDigits (index : Nat) :
    word? (Nat.toDigits 10 index) = if index < UInt64.size then some index else none := by
  unfold word?
  split
  next rest signed => exact absurd (by simp [signed]) (notMem_toDigits index (c := '+') (by decide))
  next => simp [natural?_toDigits, Option.filter_some]

/-- The number in a placeholder names its argument; a number that is no word names none. -/
theorem placeholder?_toDigits (fits : arguments.length ≤ UInt64.size) (index : Nat)
    (rest : List Char) :
    placeholder? arguments (Nat.toDigits 10 index ++ '}' :: rest) =
      arguments[index]?.map fun argument => (argument, rest) := by
  have inside : ∀ c ∈ Nat.toDigits 10 index, (c != '}') = true := fun c hc =>
    bne_iff_ne.mpr fun same => notMem_toDigits index (by decide) (same ▸ hc)
  have number : (Nat.toDigits 10 index ++ '}' :: rest).takeWhile (· != '}') =
      Nat.toDigits 10 index := by
    simp [List.takeWhile_append_of_pos inside]
  have after : (Nat.toDigits 10 index ++ '}' :: rest).dropWhile (· != '}') = '}' :: rest := by
    simp [List.dropWhile_append_of_pos inside]
  simp only [placeholder?, number, after, word?_toDigits]
  split
  next => rfl
  next large =>
    rw [List.getElem?_eq_none (Nat.le_trans fits (Nat.not_lt.mp large))]
    rfl

/-- No digit is an opening brace, so the one in front of a number is single. -/
theorem toDigits_append_ne_cons (index : Nat) (rest after : List Char) :
    Nat.toDigits 10 index ++ rest ≠ '{' :: after := by
  intro same
  cases digits : Nat.toDigits 10 index with
  | nil => exact Nat.toDigits_ne_nil digits
  | cons c others =>
    rw [digits] at same
    obtain rfl := (List.cons.inj same).1
    exact notMem_toDigits index (c := '{') (by decide) (by simp [digits])

theorem expandChars_placeholder (fits : arguments.length ≤ UInt64.size)
    (found : index < arguments.length) (rest : List Char) :
    expandChars arguments ('{' :: (Nat.toDigits 10 index ++ '}' :: rest)) =
      arguments[index].toList ++ expandChars arguments rest := by
  have named : placeholder? arguments (Nat.toDigits 10 index ++ '}' :: rest) =
      some (arguments[index], rest) := by
    rw [placeholder?_toDigits fits, List.getElem?_eq_getElem found, Option.map_some]
  rw [expandChars.eq_4 _ _ (toDigits_append_ne_cons index _)]
  split
  next other same => obtain rfl := Option.some.inj (named.symm.trans same); rfl
  next none => simp [named] at none

/-- Without an argument the opening brace stands for itself, and so does the number behind it. -/
theorem expandChars_missing (fits : arguments.length ≤ UInt64.size)
    (missing : ¬ index < arguments.length) (rest : List Char) :
    expandChars arguments ('{' :: (Nat.toDigits 10 index ++ '}' :: rest)) =
      '{' :: (Nat.toDigits 10 index ++ expandChars arguments ('}' :: rest)) := by
  have unnamed : placeholder? arguments (Nat.toDigits 10 index ++ '}' :: rest) = none := by
    rw [placeholder?_toDigits fits, List.getElem?_eq_none (Nat.not_lt.mp missing), Option.map_none]
  have plain : ∀ c ∈ Nat.toDigits 10 index, c ≠ '{' ∧ c ≠ '}' := fun c hc =>
    ⟨fun same => notMem_toDigits index (by decide) (same ▸ hc),
      fun same => notMem_toDigits index (by decide) (same ▸ hc)⟩
  rw [← expandChars_append_of_forall_ne plain,
    expandChars.eq_4 _ _ (toDigits_append_ne_cons index _)]
  split
  next other same => simp [unnamed] at same
  next => rfl

/-! ## The end of a placeholder without an argument -/

/-- Whether a closing brace in front of the text stands for itself. -/
def ClosesAlone (arguments : List String) (text : List Char) : Prop :=
  expandChars arguments ('}' :: text) = '}' :: expandChars arguments text

theorem closesAlone_of_forall_ne (h : ∀ after, text ≠ '}' :: after) : ClosesAlone arguments text :=
  expandChars.eq_5 _ _ _ (fun _ h => absurd h (by decide)) (fun after _ => h after) (by decide)

/-- Of three closing braces the first two stand for one, which comes to the same as if the last two
did. -/
theorem ClosesAlone.doubled (h : ClosesAlone arguments rest) (c : Char) :
    ClosesAlone arguments (doubled c ++ rest) := by
  by_cases closing : c = '}'
  · subst closing
    calc expandChars arguments ('}' :: '}' :: '}' :: rest)
      _ = '}' :: expandChars arguments ('}' :: rest) := expandChars.eq_3 arguments _
      _ = '}' :: '}' :: expandChars arguments rest := by rw [h]
      _ = '}' :: expandChars arguments ('}' :: '}' :: rest) := by rw [expandChars.eq_3]
  · refine closesAlone_of_forall_ne fun after same => closing ?_
    rw [Text.doubled] at same
    split at same <;> exact (List.cons.inj same).1

theorem ClosesAlone.flatMap_doubled (h : ClosesAlone arguments rest) (text : List Char) :
    ClosesAlone arguments (text.flatMap Text.doubled ++ rest) := by
  induction text with
  | nil => exact h
  | cons c text ih =>
    rw [List.flatMap_cons, List.append_assoc]
    exact ih.doubled c

theorem closesAlone_written (arguments : List String) (parts : List TemplatePart) :
    ClosesAlone arguments (parts.flatMap (·.written.toList)) := by
  induction parts with
  | nil => exact closesAlone_of_forall_ne nofun
  | cons part parts ih =>
    rw [List.flatMap_cons]
    cases part with
    | literal text =>
      rw [TemplatePart.written, toList_doubleBraces]
      exact ih.flatMap_doubled text.toList
    | placeholder index =>
      rw [TemplatePart.written, toList_placeholderText]
      exact closesAlone_of_forall_ne fun _ same => absurd (List.cons.inj same).1 (by decide)

/-! ## Templates -/

theorem expandChars_written (fits : arguments.length ≤ UInt64.size) (parts : List TemplatePart) :
    expandChars arguments (parts.flatMap (·.written.toList)) =
      parts.flatMap fun part => (part.filled arguments).toList := by
  induction parts with
  | nil => exact expandChars.eq_1 arguments
  | cons part parts ih =>
    rw [List.flatMap_cons, List.flatMap_cons, ← ih]
    cases part with
    | literal text =>
      rw [TemplatePart.written, toList_doubleBraces, expandChars_flatMap_doubled,
        TemplatePart.filled]
    | placeholder index =>
      rw [TemplatePart.written, toList_placeholderText, TemplatePart.filled, List.cons_append,
        List.append_assoc, List.singleton_append]
      split
      next found => exact expandChars_placeholder fits found _
      next missing =>
        -- Its closing brace may meet those of a text, but stands for itself all the same.
        rw [expandChars_missing fits missing, closesAlone_written, toList_placeholderText]
        simp

/-- The expansion of a template has every text as it is, with single braces, and every argument, as
it is too, in the places of its number. There are no more arguments than a word counts. -/
theorem expand_written (fits : arguments.length ≤ UInt64.size) (parts : List TemplatePart) :
    expand (String.join (parts.map TemplatePart.written)) arguments =
        String.join (parts.map (TemplatePart.filled arguments)) ∧
      ∀ text, expand (doubleBraces text) arguments = text := by
  constructor
  · apply String.toList_injective
    simpa [expand, String.toList_join, List.flatMap_map] using expandChars_written fits parts
  · intro text
    have whole := expandChars_flatMap_doubled arguments text.toList []
    apply String.toList_injective
    simpa [expand, toList_doubleBraces, expandChars.eq_1] using whole

/-- Braces stand on both sides of a placeholder without an argument, and in an argument. -/
theorem expand_written_braces :
    let arguments := ["\x7b1\x7d", "x"]
    let parts : List TemplatePart :=
      [.literal "c => \x7b", .placeholder 0, .placeholder 7, .literal "\x7d\x7d;", .placeholder 1]
    arguments.length ≤ UInt64.size ∧
      String.join (parts.map TemplatePart.written) =
        "c => \x7b\x7b\x7b0\x7d\x7b7\x7d\x7d\x7d\x7d\x7d;\x7b1\x7d" ∧
      String.join (parts.map (TemplatePart.filled arguments)) =
        "c => \x7b\x7b1\x7d\x7b7\x7d\x7d\x7d;x" ∧
      expand (String.join (parts.map TemplatePart.written)) arguments =
        String.join (parts.map (TemplatePart.filled arguments)) ∧
      ∀ text, expand (doubleBraces text) arguments = text := by
  intro arguments parts
  have fits : arguments.length ≤ UInt64.size := by decide
  exact ⟨fits, by decide +kernel, by decide +kernel, expand_written fits parts⟩

end FluentGen.Text
