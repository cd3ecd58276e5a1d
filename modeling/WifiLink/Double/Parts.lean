/-!
The value of a double, taken apart into exact integers.
-/

namespace WifiLink.Double

/-- What a double stands for: a signed natural multiple of a power of two, a signed infinity,
or no number. -/
inductive Parts where
  | finite (negative : Bool) (significand : Nat) (exponent : Int)
  | infinite (negative : Bool)
  | notANumber
deriving DecidableEq, Repr

/-- The parts of a double whose 64 bits are given: one bit of sign, eleven of exponent and
fifty-two of fraction. -/
def Parts.ofBits (bits : Nat) : Parts :=
  let negative := bits / Nat.pow 2 63 % 2 == 1
  let field : Nat := bits / Nat.pow 2 52 % Nat.pow 2 11
  let fraction : Nat := bits % Nat.pow 2 52
  if field = 2047 then
    if fraction = 0 then .infinite negative else .notANumber
  else if field = 0 then .finite negative fraction (-1074)
  else .finite negative (fraction + Nat.pow 2 52) ((field : Int) - 1075)

def parts (x : Float) : Parts := .ofBits x.toBits.toNat

/-- The magnitude `significand * 2 ^ exponent` as a quotient of two natural numbers. -/
def quotient (significand : Nat) (exponent : Int) : Nat × Nat :=
  if 0 ≤ exponent then (significand * Nat.pow 2 exponent.toNat, 1)
  else (significand, Nat.pow 2 (-exponent).toNat)

/-- The greatest whole number that is at most a finite double. -/
def floorOf (negative : Bool) (significand : Nat) (exponent : Int) : Int :=
  let (numerator, denominator) := quotient significand exponent
  (if negative then -(numerator : Int) else numerator) / (denominator : Int)

/-- The greatest whole number that is at most the quotient of two doubles, if both are finite and
the divisor is positive. -/
def floorRatio? : Parts → Parts → Option Int
  | .finite negative significand exponent, .finite false divisor power =>
      if divisor = 0 then none
      else
        let (numerator, denominator) := quotient significand exponent
        let (above, below) := quotient divisor power
        let dividend : Int := numerator * below
        some ((if negative then -dividend else dividend) / ((denominator * above : Nat) : Int))
  | _, _ => none

end WifiLink.Double
