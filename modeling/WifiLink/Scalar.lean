import WifiLink.Numeral

/-!
The numbers that the formulas are written for. A formula is one text for every kind of number:
doubles run it, and real or rounded numbers can be put in their place. What one kind cannot
answer is a fault.
-/

namespace WifiLink

/-- Why a calculation with numbers has no answer. -/
inductive ArithmeticFault where
  | integerTooLarge
  | powerTooLarge
  | zeroToNegativePower
  | divisionByZero
  | logarithmOfNonPositive
  | floorOfNotANumber
  | floorOfInfinity
  | tooManyCombinations
  | countTooLarge
  | sizeTooLarge
  | noRoom (count : Nat)
  | countNotANumber
  | boundNotFinite
deriving DecidableEq, Repr

/-- A kind of number: arithmetic, order and decimal constants, whole numbers in both directions,
and the functions the error model needs. -/
class Scalar (α : Type) extends Add α, Sub α, Mul α, Div α, Neg α, OfScientific α, LT α, LE α where
  decidableLT : DecidableLT α
  decidableLE : DecidableLE α
  /-- The number nearest to an integer. -/
  ofInt : Int → Except ArithmeticFault α
  /-- The number nearest to a spelled one. -/
  ofNumeral : Numeral → α
  /-- How many numbers are laid out in a row when so many are asked for, if there is room. -/
  room : Nat → Except ArithmeticFault Nat
  /-- The greatest integer that is not above the number. -/
  floor : α → Except ArithmeticFault Int
  /-- The number to the power of an integer. -/
  power : α → Int → Except ArithmeticFault α
  /-- Ten to the power of the number. -/
  tenToThe : α → α
  sqrt : α → α
  /-- The complementary error function. -/
  erfc : α → α
  exp : α → α
  log : α → α
  /-- The natural logarithm of one plus the number. -/
  logOnePlus : α → α
  /-- The natural logarithm of a positive natural number. -/
  logOfNat : Nat → α
  /-- The binary logarithm of a positive natural number. -/
  logTwoOfNat : Nat → α

attribute [reducible, instance] Scalar.decidableLT Scalar.decidableLE

namespace Scalar

variable {α : Type} [Scalar α]

/-- A natural number as one of this kind. -/
def ofCount (count : Nat) : α := OfScientific.ofScientific count false 0

/-- What stands for a number where there is none. -/
def notANumber : α := ofNumeral .notANumber

/-- What is no number is not even equal to itself. -/
def isNaN (x : α) : Bool := !decide (x ≤ x)

/-- Equality by the order, which does not tell two zeros apart. -/
def same (x y : α) : Bool := decide (x ≤ y) && decide (y ≤ x)

/-- An infinity less itself is no number; a finite number less itself is zero. -/
def isFinite (x : α) : Bool := !isNaN (x - x)

/-- The lesser of two numbers: the first, unless the second is below it. -/
def least (x y : α) : α := if y < x then y else x

/-- The binary logarithm of an integer, which must be positive. -/
def logTwo (n : Int) : Except ArithmeticFault α :=
  if n ≤ 0 then .error .logarithmOfNonPositive else .ok (logTwoOfNat n.toNat)

/-- A quotient whose divisor must not be zero. -/
def quotient (x y : α) : Except ArithmeticFault α :=
  if same y 0.0 then .error .divisionByZero else .ok (x / y)

end Scalar

end WifiLink
