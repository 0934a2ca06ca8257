/-!
# Binary floating-point numbers

The finite non-negative numbers of the 64-bit binary format, as a mantissa below `2 ^ 53` and a
power of two, with the arithmetic that reading a decimal needs. Every operation rounds the exact
result to the nearest number, a tie to the even mantissa.

## Main definitions
* `Binary64`: a number.
* `Binary64.ofRatio?`: the number nearest to a quotient, unless it is too large.
* `Binary64.ofDecimal?`: a decimal with a short significand, scaled by powers of ten.
-/
namespace FluentGen

/-- The number `mantissa * 2 ^ exponent`. -/
structure Binary64 where
  mantissa : Nat
  exponent : Int
  deriving DecidableEq, Repr

namespace Binary64

/-- What mantissas are less than: two to the power of 53. -/
def mantissaBound : Nat := 0x20000000000000

/-- The least exponent of the format. -/
def minExponent : Int := -1074

/-- The greatest exponent of the format. -/
def maxExponent : Int := 971

/-- The number zero. -/
def zero : Binary64 := ⟨0, minExponent⟩

/-- The numerator of the number as a fraction. -/
def numerator (x : Binary64) : Nat :=
  x.mantissa * Nat.pow 2 x.exponent.toNat

/-- The denominator of the number as a fraction. -/
def denominator (x : Binary64) : Nat :=
  Nat.pow 2 (-x.exponent).toNat

/-- The integer nearest to a quotient, a tie to the even one. -/
def roundHalfEven (num den : Nat) : Nat :=
  let quotient := num / den
  let twice := 2 * (num % den)
  if twice < den then quotient
  else if den < twice then quotient + 1
  else quotient + quotient % 2

/-- The quotient rounded to a multiple of `2 ^ exponent`. -/
def roundAt (num den : Nat) (exponent : Int) : Nat :=
  roundHalfEven (num * Nat.pow 2 (-exponent).toNat) (den * Nat.pow 2 exponent.toNat)

/-- The number nearest to `num / den`; `none` when it lies beyond the format. -/
def ofRatio? (num den : Nat) : Option Binary64 :=
  if num = 0 then some zero
  else
    let low : Int := (Nat.log2 num : Int) - Nat.log2 den - 53
    let fits (exponent : Int) : Bool :=
      num * Nat.pow 2 (-exponent).toNat < mantissaBound * (den * Nat.pow 2 exponent.toNat)
    let exponent := max minExponent (if fits low then low else low + 1)
    let mantissa := roundAt num den exponent
    let rounded : Binary64 :=
      if mantissa = mantissaBound then ⟨mantissaBound / 2, exponent + 1⟩ else ⟨mantissa, exponent⟩
    if maxExponent < rounded.exponent then none else some rounded

/-- Multiplies by a power of ten. -/
def mulPow10? (x : Binary64) (power : Nat) : Option Binary64 := do
  let scale ← ofRatio? (Nat.pow 10 power) 1
  ofRatio? (x.numerator * scale.numerator) (x.denominator * scale.denominator)

/-- Divides by a power of ten. -/
def divPow10? (x : Binary64) (power : Nat) : Option Binary64 := do
  let scale ← ofRatio? (Nat.pow 10 power) 1
  ofRatio? (x.numerator * scale.denominator) (x.denominator * scale.numerator)

/-- Divides by `10 ^ 308` a number of times, stopping at zero. -/
def divMaxPow10? : Nat → Binary64 → Option Binary64
  | 0, x => some x
  | times + 1, x =>
    if x.mantissa = 0 then some x else (divPow10? x 308).bind (divMaxPow10? times)

/-- The number `significand * 10 ^ power`, rounded after each step: first the significand, then the
power of ten, then their product or quotient. Powers below `-308` are divided out in parts. It is
`none` when the number lies beyond the format. -/
def ofDecimal? (significand : Nat) (power : Int) : Option Binary64 :=
  (ofRatio? significand 1).bind fun x =>
    if x.mantissa = 0 then some x
    else if 308 < power then none
    else if 0 ≤ power then mulPow10? x power.toNat
    else
      let parts := ((-power).toNat - 1) / 308
      (divMaxPow10? parts x).bind fun y => divPow10? y ((-power).toNat - 308 * parts)

end Binary64

end FluentGen
