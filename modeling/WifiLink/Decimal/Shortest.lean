import WifiLink.Decimal.Rounding

/-!
The fewest decimal digits that read back as the same double, and of those the nearest.
-/

namespace WifiLink.Decimal

/-- The values that round to one double, in units of a quarter of its last place: between
`lower` and `upper`, the two ends included or not. -/
structure RoundingInterval where
  lower : Nat
  upper : Nat
  closed : Bool
deriving DecidableEq, Repr

/-- The interval about `significand`, whose own place in it is `4 * significand`. Below a power
of two the doubles lie twice as dense. An end is halfway between two doubles and goes to the
even one. -/
def RoundingInterval.about (significand : Nat) (exponent : Int) : RoundingInterval where
  lower := if significand = Nat.pow 2 52 ∧ -1074 < exponent then 4 * significand - 1
    else 4 * significand - 2
  upper := 4 * significand + 2
  closed := significand % 2 == 0

/-- Whether `value * 10 ^ power` lies in the interval, whose unit is `2 ^ (exponent - 2)`. -/
def RoundingInterval.holds (interval : RoundingInterval) (exponent : Int) (value : Nat)
    (power : Int) : Bool :=
  let (numerator, denominator) := scaleQuotient value 1 power
  let (unit, parts) := Double.quotient 1 (exponent - 2)
  let point := numerator * parts
  let low := interval.lower * unit * denominator
  let high := interval.upper * unit * denominator
  if interval.closed then low ≤ point && point ≤ high else low < point && point < high

/-- Of the two neighbours of a double on the grid of numbers with `count` digits, the nearer one
that reads back, if either does. -/
def shortestOn (significand : Nat) (exponent : Int) (count : Nat) : Option Digits :=
  let (numerator, denominator) := Double.quotient significand exponent
  let leading := leadingExponent numerator denominator
  let power := leading - ((count : Int) - 1)
  let (scaled, unit) := scaleQuotient numerator denominator (-power)
  let below := scaled / unit
  let nearest := roundQuotient scaled unit
  let farther := if nearest = below then below + 1 else below
  let interval := RoundingInterval.about significand exponent
  let digitsOf (value : Nat) : Digits :=
    if value = Nat.pow 10 count then .ofNat (Nat.pow 10 (count - 1)) (leading + 1)
    else .ofNat value leading
  if interval.holds exponent nearest power then some (digitsOf nearest)
  else if interval.holds exponent farther power then some (digitsOf farther)
  else none

/-- The shortest digits of a positive double. Seventeen are always enough. -/
def shortest (significand : Nat) (exponent : Int) : Digits :=
  let found := (List.range 16).findSome? fun count => shortestOn significand exponent (count + 1)
  match found with
  | some digits => digits.trim
  | none =>
      let (numerator, denominator) := Double.quotient significand exponent
      (significant 17 numerator denominator).trim

end WifiLink.Decimal
