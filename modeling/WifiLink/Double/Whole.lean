/-!
Doubles nearest to natural numbers of any size. The leading sixty-four bits decide the
rounding, provided the last of them records whether anything nonzero was cut off.
-/

namespace WifiLink.Double

/-- Two to a power between zero and 1023. -/
def twoPow (exponent : Nat) : Float :=
  Float.ofBits ((exponent + 1023).toUInt64 <<< 52)

/-- The sixty-four leading bits of a natural number and the number of bits dropped after
them. The last kept bit is set when a dropped one was. -/
def leadingBits (n : Nat) : Nat × Nat :=
  if n < Nat.pow 2 64 then (n, 0)
  else
    let dropped := n.log2 - 63
    let kept := n >>> dropped
    (if kept <<< dropped = n then kept else kept ||| 1, dropped)

/-- The double nearest to a natural number, a tie going to the even neighbour. There is none
from the middle between the greatest double and the next power of two on. -/
def ofNat? (n : Nat) : Option Float :=
  let (kept, dropped) := leadingBits n
  if 960 < dropped then none
  else
    let rounded := kept.toUInt64.toFloat * twoPow dropped
    if rounded.isFinite then some rounded else none

/-- The double nearest to an integer, if it is in range. -/
def ofInt? (n : Int) : Option Float :=
  if n < 0 then (ofNat? n.natAbs).map (-·) else ofNat? n.natAbs

/-- A logarithm of a natural number of any size: beyond the range of doubles the number is a
fraction from one half to one times a power of two, and the logarithms of both are added. -/
def logarithmOfNat (logarithm : Float → Float) (n : Nat) : Float :=
  match ofNat? n with
  | some x => logarithm x
  | none =>
      let (kept, dropped) := leadingBits n
      let fraction := kept.toUInt64.toFloat / twoPow 64
      if fraction < 1.0 then
        logarithm fraction + logarithm 2.0 * (dropped + 64).toUInt64.toFloat
      else logarithm 0.5 + logarithm 2.0 * (dropped + 65).toUInt64.toFloat

end WifiLink.Double
