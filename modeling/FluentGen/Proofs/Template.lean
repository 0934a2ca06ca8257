import FluentGen.Text.Template
import Mathlib.Data.List.Infix
/-!
# Templates and their arguments

A template over one argument either shows the argument or does not depend on it at all.

## Main definitions
* `Text.UsesArgument`: whether a template depends on its only argument.
* `Text.ShowsOrIgnores`: whether a text shows its only argument or does not depend on it.

## Main statements
* `Text.showsOrIgnores`: every text does one or the other.
* `Text.infix_expand_of_usesArgument`: a template that depends on its argument shows it.
-/
namespace FluentGen.Text

/-- Whether a template depends on its only argument. -/
def UsesArgument (template : String) : Prop :=
  ∃ a b, expand template [a] ≠ expand template [b]

/-- Which placeholder a text names does not depend on the argument. -/
theorem placeholder?_singleton (a b : String) (text : List Char) :
    placeholder? [a] text = (placeholder? [b] text).map fun found => (a, found.2) := by
  simp only [placeholder?]
  split
  · rfl
  · cases word? (text.takeWhile (· != '}')) with
    | none => rfl
    | some index => cases index <;> rfl

/-- Whether the expansion of a text shows its only argument or does not depend on it. -/
def ShowsOrIgnores (text : List Char) : Prop :=
  (∀ a : String, a.toList <:+: expandChars [a] text) ∨
    ∀ a b, expandChars [a] text = expandChars [b] text

theorem ShowsOrIgnores.of_cons {text rest : List Char} {c : Char}
    (h : ∀ a, expandChars [a] text = c :: expandChars [a] rest) (ih : ShowsOrIgnores rest) :
    ShowsOrIgnores text :=
  ih.imp (fun shown a => h a ▸ List.infix_cons (shown a))
    fun same a b => by rw [h, h, same a b]

theorem showsOrIgnores (text : List Char) : ShowsOrIgnores text := by
  induction text using expandChars.induct [""] with
  | case1 => exact .inr fun a b => by rw [expandChars, expandChars]
  | case2 rest ih => exact .of_cons (fun a => expandChars.eq_2 [a] rest) ih
  | case3 rest ih => exact .of_cons (fun a => expandChars.eq_3 [a] rest) ih
  | case4 rest single found named ih =>
    refine .inl fun a => ?_
    have named : placeholder? [a] rest = some (a, found.2) := by
      rw [placeholder?_singleton a "", named, Option.map_some]
    rw [expandChars.eq_4 _ _ single]
    split
    next other eq =>
      obtain rfl := Option.some.inj (named.symm.trans eq)
      exact (List.prefix_append _ _).isInfix
    next eq => simp [named] at eq
  | case5 rest single unnamed ih =>
    refine .of_cons (c := '{') (fun a => ?_) ih
    have unnamed : placeholder? [a] rest = none := by
      rw [placeholder?_singleton a "", unnamed, Option.map_none]
    rw [expandChars.eq_4 _ _ single]
    split
    next eq => simp [unnamed] at eq
    next => rfl
  | case6 c rest single closing opening ih =>
    exact .of_cons (fun a => expandChars.eq_5 _ c rest single closing opening) ih

/-- A template that depends on its argument shows it. -/
theorem infix_expand_of_usesArgument {template : String} (h : UsesArgument template) (a : String) :
    a.toList <:+: (expand template [a]).toList := by
  obtain ⟨b, c, apart⟩ := h
  obtain shown | same := showsOrIgnores template.toList
  · simpa [expand] using shown a
  · exact absurd (congrArg String.ofList (same b c)) apart

end FluentGen.Text
