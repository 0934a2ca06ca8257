import FluentGen.Decimal.Shortest
/-!
# Signed floating-point numbers

Numbers as people write them: a sign, digits with a point, an exponent, or a word for infinity. The
value is the nearest number of the 64-bit format, and what lies beyond the format is infinite.

## Main definitions
* `Decimal`, `Decimal.ofText?`: a decimal as it is written.
* `Decimal.magnitude?`: the nearest number.
* `Floating`, `Floating.ofText?`: a number with its sign, or an infinity.
* `Floating.order`, `Floating.display`: the order of numbers, and their positional text.
-/
namespace FluentGen

/-- A decimal without its sign: the digits before and after the point, and the power of ten that
they are scaled by. -/
structure Decimal where
  whole : List Char
  fraction : List Char := []
  exponent : Int := 0
  deriving DecidableEq, Repr

namespace Decimal

/-- Takes a sign off a text, and says whether it is a minus sign. -/
def splitSign : List Char → Bool × List Char
  | '-' :: rest => (true, rest)
  | '+' :: rest => (false, rest)
  | text => (false, text)

/-- Reads an exponent: nothing at all, or digits, perhaps with a sign, behind the letter. -/
def exponent? : List Char → Option Int
  | [] => some 0
  | c :: rest =>
    let (negative, digits) := splitSign rest
    if (c == 'e' || c == 'E') && !digits.isEmpty && digits.all Char.isDigit then
      let power : Int := Nat.ofDigitChars 10 digits 0
      some (if negative then -power else power)
    else none

/-- Reads a decimal. There is a digit on one side of the point at least. -/
def ofText? (text : List Char) : Option Decimal :=
  let whole := text.takeWhile Char.isDigit
  let (fraction, rest) := match text.dropWhile Char.isDigit with
    | '.' :: rest => (rest.takeWhile Char.isDigit, rest.dropWhile Char.isDigit)
    | rest => ([], rest)
  if whole.isEmpty && fraction.isEmpty then none
  else (exponent? rest).map fun exponent => { whole, fraction, exponent }

/-- The number nearest to a decimal, unless that lies beyond the format. Decimals of `10 ^ 310` and
more do, and those below `10 ^ -330` are nearest to zero. -/
def magnitude? (decimal : Decimal) : Option Binary64 :=
  let significand := Nat.ofDigitChars 10 (decimal.whole ++ decimal.fraction) 0
  let power := decimal.exponent - decimal.fraction.length
  let size : Int := (Nat.toDigits 10 significand).length + power
  if significand = 0 || size < -330 then some .zero
  else if 310 < size then none
  else Binary64.ofRatio? (significand * Nat.pow 10 power.toNat) (Nat.pow 10 (-power).toNat)

end Decimal

/-- A floating-point number with its sign. The infinities have no magnitude. -/
structure Floating where
  negative : Bool
  magnitude : Option Binary64
  deriving DecidableEq, Repr

namespace Floating

/-- The words for infinity, in small letters. -/
def infinityWords : List String :=
  ["inf", "infinity"]

/-- Reads a number: a decimal or a word for infinity, in any case of letters. -/
def ofText? (text : List Char) : Option Floating :=
  let (negative, rest) := Decimal.splitSign text
  if infinityWords.contains (String.ofList rest).toLower then some ⟨negative, none⟩
  else (Decimal.ofText? rest).map fun decimal => ⟨negative, decimal.magnitude?⟩

/-- Which of two magnitudes is greater. -/
def orderMagnitudes : Option Binary64 → Option Binary64 → Ordering
  | some left, some right =>
    compare (left.numerator * right.denominator) (right.numerator * left.denominator)
  | some _, none => .lt
  | none, some _ => .gt
  | none, none => .eq

/-- Whether a number is zero, of either sign. -/
def isZero (number : Floating) : Bool :=
  number.magnitude.any (·.mantissa == 0)

/-- Which of two numbers is greater. The two zeros are equal. -/
def order (left right : Floating) : Ordering :=
  if left.isZero && right.isZero then .eq
  else match left.negative, right.negative with
    | false, false => orderMagnitudes left.magnitude right.magnitude
    | false, true => .gt
    | true, false => .lt
    | true, true => orderMagnitudes right.magnitude left.magnitude

/-- The text of a number, without an exponent however large or small it is. -/
def display (number : Floating) : String :=
  (if number.negative then "-" else "") ++ number.magnitude.elim "inf" Binary64.displayPositional

example : (ofText? "-.5e1".toList).map display = some "-5" := by decide +kernel
example : (ofText? "1e-7".toList).map display = some "0.0000001" := by decide +kernel
example : (ofText? "18446744073709551616".toList).map display = some "18446744073709552000" := by
  decide +kernel
example : (ofText? "+Infinity".toList).map display = some "inf" := by decide +kernel
example : ofText? ".e1".toList = none := by decide +kernel

end Floating

end FluentGen
