import FluentGen.Decimal.Binary64
/-!
# Shortest decimals

The text of a binary floating-point number: the fewest decimal digits that read back as the same
number, and of those the nearest.

## Main definitions
* `Binary64.readsBack`: the decimals that round to a number.
* `Binary64.shortest`: digits and a power of ten.
* `Binary64.display`: the text, positional near one and with an exponent elsewhere.
* `Binary64.displayPositional`: the text without an exponent.
-/
namespace FluentGen.Binary64

/-- Whether `digits * 10 ^ power` rounds to `x`: it lies within half a step of `x`, ends included
if the mantissa is even. The step below a power of two is half as wide. -/
def readsBack (x : Binary64) (digits : Nat) (power : Int) : Bool :=
  let narrow := x.mantissa = mantissaBound / 2 ∧ minExponent < x.exponent
  let num := 4 * digits * Nat.pow 10 power.toNat * Nat.pow 2 (-x.exponent).toNat
  let den := Nat.pow 10 (-power).toNat * Nat.pow 2 x.exponent.toNat
  let low := (4 * x.mantissa - if narrow then 1 else 2) * den
  let high := (4 * x.mantissa + 2) * den
  if x.mantissa % 2 = 0 then low ≤ num && num ≤ high else low < num && num < high

/-- The greatest `power` with `10 ^ power ≤ x`, for a number that is not zero. -/
def log10 (x : Binary64) : Int :=
  let num := x.numerator
  let den := x.denominator
  let estimate : Int := (Nat.toDigits 10 num).length - (Nat.toDigits 10 den).length
  if den * Nat.pow 10 estimate.toNat ≤ num * Nat.pow 10 (-estimate).toNat then estimate
  else estimate - 1

/-- The decimal on the grid of `10 ^ power` that reads back as `x`, the nearer one if the two
neighbours of `x` both do and the even one if they are equally near. -/
def onGrid? (x : Binary64) (power : Int) : Option Nat :=
  let num := x.numerator * Nat.pow 10 (-power).toNat
  let den := x.denominator * Nat.pow 10 power.toNat
  let nearest := roundHalfEven num den
  let below := num / den
  if readsBack x nearest power then some nearest
  else if readsBack x below power then some below
  else if readsBack x (below + 1) power then some (below + 1)
  else none

/-- The shortest digits of a number that is not zero, with the power of ten of the last digit; the
digits do not end in zero. -/
def shortest (x : Binary64) : Nat × Int :=
  let top := x.log10
  let grids := (List.range 17).map fun (count : Nat) => top - (count : Int)
  match grids.findSome? fun power => (x.onGrid? power).map fun digits => (digits, power) with
  | some found => if found.1 % 10 = 0 then (found.1 / 10, found.2 + 1) else found
  | none => (0, 0)

/-- The text of digits and a power of ten, without an exponent. There is a point only before digits
that are behind it. -/
def positional (digits : List Char) (power : Int) : List Char :=
  let point : Int := digits.length + power
  if 0 ≤ power then digits ++ List.replicate power.toNat '0'
  else if 0 < point then digits.take point.toNat ++ '.' :: digits.drop point.toNat
  else '0' :: '.' :: List.replicate (-point).toNat '0' ++ digits

/-- The text of a number without an exponent. -/
def displayPositional (x : Binary64) : String :=
  if x.mantissa = 0 then "0"
  else
    let (value, power) := x.shortest
    String.ofList (positional (Nat.toDigits 10 value) power)

/-- The text of a number: positional when the point falls within sixteen digits after the first
digit or five before it, with a signed exponent otherwise. A positional text has a digit on both
sides of the point. -/
def display (x : Binary64) : String :=
  if x.mantissa = 0 then "0.0"
  else
    let (value, power) := x.shortest
    let digits := Nat.toDigits 10 value
    let point : Int := digits.length + power
    let text :=
      if -5 < point ∧ point ≤ 16 then
        positional digits power ++ if 0 ≤ power then ['.', '0'] else []
      else
        let mantissa := match digits with
          | [first] => [first]
          | first :: rest => first :: '.' :: rest
          | [] => []
        mantissa ++ 'e' :: (if 0 < point then '+' else '-') :: Nat.toDigits 10 (point - 1).natAbs
    String.ofList text

end FluentGen.Binary64
