import WifiLink.Code.Binomial

/-!
The probability that a decoder prefers a wrong path of the code at a given Hamming distance:
more than half of the differing bits are wrong, a tie being decided wrongly half of the time. The
term in which all of them are wrong is left out.
-/

namespace WifiLink

variable {α : Type} [Scalar α]

/-- A sum with a number of further binomial terms, from a first number of wrong bits on. -/
def addBinomials (errorRate : α) (distance : Int) : Nat → Int → α → Except (Fault α) α
  | 0, _, sum => .ok sum
  | count + 1, wrong, sum => do
      let term ← binomial wrong errorRate distance
      addBinomials errorRate distance count (wrong + 1) (sum + term)

/-- The sum of the binomial terms from a first number of wrong bits up to, but without, the
distance itself. -/
def binomialSum (errorRate : α) (distance first : Int) : Except (Fault α) α :=
  addBinomials errorRate distance (distance - first).toNat first 0.0

def pairwiseOdd (errorRate : α) (distance : Int) : Except (Fault α) α :=
  if distance % 2 ≠ 1 then .error (.distanceNotOdd distance)
  else binomialSum errorRate distance ((distance + 1) / 2)

def pairwiseEven (errorRate : α) (distance : Int) : Except (Fault α) α :=
  if distance % 2 ≠ 0 then .error (.distanceNotEven distance)
  else do
    let decided ← binomialSum errorRate distance (distance / 2 + 1)
    let tied ← binomial (distance / 2) errorRate distance
    return decided + 0.5 * tied

/-- The probability at any positive distance. -/
def pairwiseError (errorRate : α) (distance : Int) : Except (Fault α) α :=
  if distance < 1 then .error (.distanceNotPositive distance)
  else if distance % 2 = 0 then pairwiseEven errorRate distance
  else pairwiseOdd errorRate distance

end WifiLink
