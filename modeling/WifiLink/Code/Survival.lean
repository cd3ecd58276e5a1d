import WifiLink.BitError
import WifiLink.Code.Pairwise
import WifiLink.Code.Spectrum

/-!
The probability that a coded chunk of bits survives decoding: each bit starts an error event
with at most the probability that the union bound gives, so none of `n` bits does with at least
`(1 - bound) ^ n`.
-/

namespace WifiLink

variable {α : Type} [Scalar α]

/-- A term of the union bound. At distance one no binomial term is counted, so the weight does
not matter. -/
def weightedPairwise (errorRate : α) (weight distance : Int) : Except (Fault α) α := do
  let pairwise ← pairwiseError errorRate distance
  if distance = 1 then return 0.0
  else
    let factor ← Scalar.ofInt weight
    return factor * pairwise

/-- The bound on the probability that an error event starts at a bit, at most one. -/
def errorEventBound (errorRate : α) (spectrum : DistanceSpectrum) : Except (Fault α) α := do
  let first ← weightedPairwise errorRate spectrum.freeWeight spectrum.freeDistance
  match spectrum.nextWeight with
  | none => return Scalar.least first 1.0
  | some weight =>
      let second ← weightedPairwise errorRate weight (spectrum.freeDistance + 1)
      return Scalar.least (first + second) 1.0

/-- The probability that a chunk of coded bits survives, from the bit error rate of the channel.
Without bit errors it does, whatever the code. -/
def chunkSurvival (errorRate : α) (bits : Int) (spectrum : DistanceSpectrum) :
    Except (Fault α) α :=
  if Scalar.same errorRate 0.0 then .ok 1.0
  else do
    let bound ← errorEventBound errorRate spectrum
    Scalar.power (1.0 - bound) bits

/-- The survival of a chunk sent with BPSK and a single-term code. -/
def bpskSurvival (snr : α) (bits : Int) (width rate : α) (freeDistance freeWeight : Int) :
    Except (Fault α) α := do
  let errorRate ← bpskErrorRate snr width rate
  chunkSurvival errorRate bits ⟨freeDistance, freeWeight, none⟩

def qamSurvival (snr : α) (bits : Int) (width rate : α) (constellation : Int)
    (spectrum : DistanceSpectrum) : Except (Fault α) α := do
  let errorRate ← qamErrorRate snr constellation width rate
  chunkSurvival errorRate bits spectrum

end WifiLink
