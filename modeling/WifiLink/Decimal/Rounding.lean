import WifiLink.Double.Parts

/-!
Exact decimal roundings of quotients of natural numbers. A positive quotient is written as
`digits * 10 ^ scale` with a chosen number of digits or of places, the nearest such value, a tie
going to the even one.
-/

namespace WifiLink.Decimal

/-- The natural number nearest to a quotient, the even one of two that are equally near. -/
def roundQuotient (numerator denominator : Nat) : Nat :=
  let whole := numerator / denominator
  let twice := 2 * (numerator % denominator)
  if twice < denominator then whole
  else if denominator < twice then whole + 1
  else whole + whole % 2

/-- Multiplies a quotient by a power of ten, of either sign. -/
def scaleQuotient (numerator denominator : Nat) (power : Int) : Nat × Nat :=
  if 0 ≤ power then (numerator * Nat.pow 10 power.toNat, denominator)
  else (numerator, denominator * Nat.pow 10 (-power).toNat)

def digitCount (n : Nat) : Nat := (Nat.toDigits 10 n).length

/-- The exponent of the leading decimal digit: the greatest `e` for which a positive quotient is
at least `10 ^ e`. -/
def leadingExponent (numerator denominator : Nat) : Int :=
  if denominator ≤ numerator then (digitCount (numerator / denominator) : Int) - 1
  else
    let inverse := digitCount (denominator / numerator)
    if numerator * Nat.pow 10 (inverse - 1) = denominator then 1 - (inverse : Int)
    else -(inverse : Int)

/-- Decimal digits with the exponent of the first one: the value is the digits, read as a
number with a point after the first, times `10 ^ exponent`. -/
structure Digits where
  digits : List Char
  exponent : Int
deriving DecidableEq, Repr

namespace Digits

/-- A whole number of a given number of digits, the first of which has a given exponent. -/
def ofNat (n : Nat) (exponent : Int) : Digits := ⟨Nat.toDigits 10 n, exponent⟩

/-- The same value without zeros at the end. -/
def trim (d : Digits) : Digits :=
  { d with digits := (d.digits.reverse.dropWhile (· == '0')).reverse }

end Digits

/-- A positive quotient to a given number of significant digits. Rounding up to the next power
of ten moves the exponent. -/
def significant (count numerator denominator : Nat) : Digits :=
  let exponent := leadingExponent numerator denominator
  let (scaled, unit) := scaleQuotient numerator denominator ((count : Int) - 1 - exponent)
  let rounded := roundQuotient scaled unit
  if rounded = Nat.pow 10 count then .ofNat (Nat.pow 10 (count - 1)) (exponent + 1)
  else .ofNat rounded exponent

end WifiLink.Decimal
