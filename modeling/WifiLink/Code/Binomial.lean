import WifiLink.Fault

/-!
Terms of the binomial distribution. A term is the product of its three factors; where that
leaves the range of full precision, the term is formed from the logarithms of the factors.
-/

namespace WifiLink

variable {α : Type} [Scalar α]

/-- The product of `count` consecutive numbers. It is halved as often as `depth` says, because
factors of like size are multiplied fastest. -/
def consecutiveProduct : Nat → Nat → Nat → Nat
  | 0, first, count => (List.range count).foldl (fun product i => product * (first + i)) 1
  | depth + 1, first, count =>
      consecutiveProduct depth first (count / 2) *
        consecutiveProduct depth (first + count / 2) (count - count / 2)

/-- The number of ways to choose `k` of `n`: as many factors from `n` down as are chosen, or left
out if they are fewer, over those from one up. -/
def choose (n k : Nat) : Nat :=
  let count := min k (n - k)
  consecutiveProduct count.log2 (n - count + 1) count / consecutiveProduct count.log2 1 count

/-- The count of combinations, as long as the fewer of chosen and left out is a number of
sixty-three bits. -/
def combinations (n k : Nat) : Except ArithmeticFault Nat :=
  if Nat.pow 2 63 - 1 < min k (n - k) then .error .tooManyCombinations else .ok (choose n k)

/-- The product of the three factors of a term. -/
def binomialProduct (ways : Nat) (k : Int) (p : α) (n : Int) : Except ArithmeticFault α := do
  let count ← Scalar.ofInt ways
  let hits ← Scalar.power p k
  let misses ← Scalar.power (1.0 - p) (n - k)
  return count * hits * misses

/-- A term from the logarithms of its factors. -/
def binomialByLogarithms (ways : Nat) (k : Int) (p : α) (n : Int) :
    Except ArithmeticFault α := do
  let hits ← Scalar.ofInt k
  let misses ← Scalar.ofInt (n - k)
  return Scalar.exp (Scalar.logOfNat ways + hits * Scalar.log p + misses * Scalar.logOnePlus (-p))

/-- The least number that has full precision among doubles. -/
def leastNormal : α := 2.2250738585072014e-308

/-- The probability of `k` hits in `n` trials that hit with probability `p`. -/
def binomial (k : Int) (p : α) (n : Int) : Except (Fault α) α :=
  if ¬(0 ≤ k ∧ k ≤ n) then .error (.binomialOutOfRange k n)
  else if ¬(0.0 ≤ p ∧ p ≤ 1.0) then .error (.probabilityOutOfRange p)
  else if Scalar.same p 0.0 then .ok (if k = 0 then 1.0 else 0.0)
  else if Scalar.same p 1.0 then .ok (if k = n then 1.0 else 0.0)
  else do
    let ways ← combinations n.toNat k.toNat
    let product :=
      match binomialProduct ways k p n with
      | .ok value => value
      | .error _ => 0.0
    if leastNormal ≤ product ∧ Scalar.isFinite product then return product
    else binomialByLogarithms ways k p n

end WifiLink
