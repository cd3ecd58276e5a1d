import WifiLink.Double.Erfc
import WifiLink.Double.LogOnePlus
import WifiLink.Double.Whole
import WifiLink.Double.Parts
import WifiLink.Scalar

/-!
Doubles as the numbers of the error model.
-/

namespace WifiLink.Double

/-- The double nearest to a spelled number. -/
def ofNumeral : Numeral → Float
  | .finite negative digits exponent =>
      let magnitude := Float.ofScientific digits (exponent < 0) exponent.natAbs
      if negative then -magnitude else magnitude
  | .infinite negative => if negative then -1.0 / 0.0 else 1.0 / 0.0
  | .notANumber => 0.0 / 0.0

/-- The greatest integer that is not above a double. -/
def floor (x : Float) : Except ArithmeticFault Int :=
  match parts x with
  | .finite negative significand exponent => .ok (floorOf negative significand exponent)
  | .infinite _ => .error .floorOfInfinity
  | .notANumber => .error .floorOfNotANumber

/-- A double to an integer power. The exponent becomes a double first. A finite base must keep
a finite power, zero has no negative power, and the sign follows the parity of the exponent as
it became. -/
def power (x : Float) (exponent : Int) : Except ArithmeticFault Float :=
  match ofInt? exponent with
  | none => .error .integerTooLarge
  | some y =>
      if x == 0.0 && y < 0.0 then .error .zeroToNegativePower
      else
        let result := Float.pow x y
        if x.isFinite && result.isInf then .error .powerTooLarge else .ok result

/-- The greatest number of doubles that there is room for in a row. -/
def roomLimit : Nat := Nat.pow 2 30

/-- A natural number as far as doubles can tell it from others, if it is in their range. -/
def nearestNat (n : Nat) : Except ArithmeticFault Nat := do
  match ofNat? n with
  | none => throw .countTooLarge
  | some x => return (← floor x).toNat

/-- The number of doubles in a row: the nearest double to the count. It is kept in a signed word of
sixty-four bits, in which `2 ^ 63` is a negative number and leaves no doubles, and so is the number
of bytes, eight for each, before the room for them is looked for. -/
def room (count : Nat) : Except ArithmeticFault Nat := do
  let size ← nearestNat count
  if Nat.pow 2 63 < size then throw .countTooLarge
  else if size = Nat.pow 2 63 then return 0
  else if Nat.pow 2 63 ≤ 8 * size then throw .sizeTooLarge
  else if roomLimit < size then throw (.noRoom size)
  else return size

instance : Scalar Float where
  decidableLT := inferInstance
  decidableLE := inferInstance
  ofInt n :=
    match ofInt? n with
    | some x => .ok x
    | none => .error .integerTooLarge
  ofNumeral := ofNumeral
  room := room
  floor := floor
  power := power
  tenToThe x := Float.pow 10.0 x
  sqrt := Float.sqrt
  erfc := erfc
  exp := Float.exp
  log := Float.log
  logOnePlus := logOnePlus
  logOfNat := logarithmOfNat Float.log
  logTwoOfNat := logarithmOfNat Float.log2

end WifiLink.Double
