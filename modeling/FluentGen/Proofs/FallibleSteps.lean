/-!
# Steps that can fail

A computation in steps has a result if every step has one.

## Main statements
* `bind_eq_ok_iff`, `bind_eq_error_iff`: what comes of two steps.
* `then_eq_ok_iff`, `then_eq_error_iff`: the same when the first has nothing to tell.
* `map_eq_ok_iff`, `mapError_eq_ok_iff`: what comes of a step whose result or failure is changed.
-/
namespace FluentGen

variable {ε ε' α β : Type} {b : β} {error : ε}

theorem bind_eq_ok_iff {first : Except ε α} {next : α → Except ε β} :
    (first >>= next) = .ok b ↔ ∃ a, first = .ok a ∧ next a = .ok b := by
  cases first <;> simp [bind, Except.bind]

theorem bind_eq_error_iff {first : Except ε α} {next : α → Except ε β} :
    (first >>= next) = .error error ↔
      first = .error error ∨ ∃ a, first = .ok a ∧ next a = .error error := by
  cases first <;> simp [bind, Except.bind]

theorem then_eq_ok_iff {first : Except ε Unit} {next : Unit → Except ε β} :
    (first >>= next) = .ok b ↔ first = .ok () ∧ next () = .ok b := by
  cases first <;> simp [bind, Except.bind]

theorem then_eq_error_iff {first : Except ε Unit} {next : Unit → Except ε β} :
    (first >>= next) = .error error ↔
      first = .error error ∨ (first = .ok () ∧ next () = .error error) := by
  cases first <;> simp [bind, Except.bind]

theorem map_eq_ok_iff {first : Except ε α} {f : α → β} :
    first.map f = .ok b ↔ ∃ a, first = .ok a ∧ f a = b := by
  cases first <;> simp [Except.map]

theorem mapError_eq_ok_iff {first : Except ε β} {f : ε → ε'} :
    first.mapError f = .ok b ↔ first = .ok b := by
  cases first <;> constructor <;> rintro ⟨⟩ <;> rfl

end FluentGen
