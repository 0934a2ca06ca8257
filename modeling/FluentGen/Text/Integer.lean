/-!
# Integers

Integers that fit a word of 64 bits, as texts of decimal digits.

## Main definitions
* `word?`: reads a number that is not negative.
* `negativeWord?`: reads a number with a minus sign.
-/
namespace FluentGen.Text

/-- The number written as one or more decimal digits. -/
def natural? (text : List Char) : Option Nat :=
  if text.isEmpty || text.any (!·.isDigit) then none else some (Nat.ofDigitChars 10 text 0)

/-- The number written as decimal digits, optionally after a plus sign; numbers from `2 ^ 64` on
are not read. -/
def word? (text : List Char) : Option Nat :=
  let digits := match text with
    | '+' :: rest => rest
    | _ => text
  (natural? digits).filter (· < UInt64.size)

/-- The absolute value of a number written as decimal digits after a minus sign; numbers below
`-2 ^ 63` are not read. -/
def negativeWord? : List Char → Option Nat
  | '-' :: digits => (natural? digits).filter (· ≤ UInt64.size / 2)
  | _ => none

example : word? "+18446744073709551615".toList = some 18446744073709551615 := by decide +kernel
example : word? "18446744073709551616".toList = none ∧ word? "-1".toList = none := by decide +kernel
example : negativeWord? "-007".toList = some 7 := by decide +kernel

end FluentGen.Text
