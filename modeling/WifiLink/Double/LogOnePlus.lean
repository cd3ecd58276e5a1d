/-!
The logarithm of one plus a small number, without the digits that forming the sum would lose.
The argument is brought to a factor near one times a power of two; a correction carries the
part that rounding cut off the sum, and a polynomial in `f / (2 + f)` gives the rest.
-/

namespace WifiLink.Double

/-- The high thirty-two bits of a double. -/
def highWord (x : Float) : Nat := x.toBits.toNat / Nat.pow 2 32

/-- A double with its high thirty-two bits replaced. -/
def withHighWord (x : Float) (word : Nat) : Float :=
  Float.ofBits (word * Nat.pow 2 32 + x.toBits.toNat % Nat.pow 2 32).toUInt64

/-- The leading bits of `log 2`, short enough for exact products with an exponent. -/
def logTwoHigh : Float := 6.93147180369123816490e-01

/-- What `logTwoHigh` lacks of `log 2`. -/
def logTwoLow : Float := 1.90821492927058770002e-10

/-- The even tail of the logarithm's series in `s = f / (2 + f)`, of which `z` is the square. -/
def logTail (z : Float) : Float :=
  let z2 := z * z
  let z4 := z2 * z2
  let z6 := z4 * z2
  let first := z * 6.666666666666735130e-01
  let second := 3.999999999940941908e-01 + z * 2.857142874366239149e-01
  let third := 2.222219843214978396e-01 + z * 1.818357216161805012e-01
  let fourth := 1.531383769920937332e-01 + z * 1.479819860511658591e-01
  first + z2 * second + z4 * third + z6 * fourth

/-- `log (1 + f)` plus `power * log 2` plus a correction, for `f` between about -0.3 and 0.42.
`tiny` says that `f` is below a millionth, where two terms of the series are enough. -/
def logReduced (f power correction : Float) (tiny : Bool) : Float :=
  let halfSquare := 0.5 * f * f
  if tiny then
    if f == 0.0 then
      if power == 0.0 then 0.0 else power * logTwoHigh + (correction + power * logTwoLow)
    else
      let rest := halfSquare * (1.0 - 0.66666666666666666 * f)
      if power == 0.0 then f - rest
      else power * logTwoHigh - ((rest - (power * logTwoLow + correction)) - f)
  else
    let s := f / (2.0 + f)
    let rest := logTail (s * s)
    if power == 0.0 then f - (halfSquare - s * (halfSquare + rest))
    else
      power * logTwoHigh -
        ((halfSquare - (s * (halfSquare + rest) + (power * logTwoLow + correction))) - f)

/-- The sum `1 + x`, brought to `f` and a power of two with `1 + f` between `√2 / 2` and `√2`. -/
def logScaled (x : Float) : Float :=
  let huge := 9007199254740992.0 ≤ x
  let sum := if huge then x else 1.0 + x
  let field := highWord sum / Nat.pow 2 20
  let correction :=
    if huge then 0.0
    else (if 1023 < field then 1.0 - (sum - x) else x - (sum - 1.0)) / sum
  let top := highWord sum % Nat.pow 2 20
  if top < 0x6A09E then
    let f := withHighWord sum (top + 0x3FF00000) - 1.0
    logReduced f (field.toUInt64.toFloat - 1023.0) correction (top == 0)
  else
    let f := withHighWord sum (top + 0x3FE00000) - 1.0
    logReduced f (field.toUInt64.toFloat - 1022.0) correction ((0x100000 - top) / 4 == 0)

/-- `log (1 + x)`, minus infinity at `x = -1` and no number below. -/
def logOnePlus (x : Float) : Float :=
  if x.isNaN || x < -1.0 then 0.0 / 0.0
  else if x == -1.0 then -1.0 / 0.0
  else if x.isInf then x
  else
    let word := highWord x
    let magnitude := word % Nat.pow 2 31
    if magnitude < 0x3C900000 then x
    else if magnitude < 0x3E200000 then x - x * x * 0.5
    else if (word < Nat.pow 2 31 && word < 0x3FDA827A) ||
        (Nat.pow 2 31 ≤ word && word ≤ 0xBFD2BEC3) then
      logReduced x 0.0 0.0 false
    else logScaled x

end WifiLink.Double
