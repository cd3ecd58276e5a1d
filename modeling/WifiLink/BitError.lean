import WifiLink.Fault
import WifiLink.Modulation

/-!
Bit error rates of uncoded BPSK and square QAM in white Gaussian noise. The linear
signal-to-noise ratio is that of the whole channel; with the width and the bit rate it gives the
energy per bit over the noise density. Main functions: `bitErrorRate` and, for its two formulas,
`bpskErrorRate` and `qamErrorRate`.
-/

namespace WifiLink

variable {α : Type} [Scalar α]

/-- The energy per bit over the noise density, from a linear signal-to-noise ratio, a width in
MHz and a coded rate in bits per second. -/
def bitEnergyRatio (snr width rate : α) : Except (Fault α) α :=
  if Scalar.isNaN snr ∨ snr < 0.0 then .error (.invalidSnr snr)
  else if width ≤ 0.0 then .error .spreadNotPositive
  else if rate ≤ 0.0 then .error .rateNotPositive
  else .ok (snr * width * 1e6 / rate)

def bpskErrorRate (snr width rate : α) : Except (Fault α) α := do
  let energy ← bitEnergyRatio snr width rate
  return 0.5 * Scalar.erfc (Scalar.sqrt energy)

/-- The share of wrong bits of square QAM: one dimension is decided wrongly with probability
`oneSided`, and a symbol unless both are right. -/
def qamErrorOf (size bits energy : α) : Except (Fault α) α := do
  let argument := Scalar.sqrt (1.5 * bits * energy / (size - 1.0))
  let oneSided := (1.0 - 1.0 / Scalar.sqrt size) * Scalar.erfc argument
  let bothRight ← Scalar.power (1.0 - oneSided) 2
  return (1.0 - bothRight) / bits

def qamErrorRate (snr : α) (constellation : Int) (width rate : α) : Except (Fault α) α :=
  if constellation ∉ constellationSizes ∨ constellation = 2 then
    .error (.unsupportedConstellation constellation)
  else do
    let energy ← bitEnergyRatio snr width rate
    let bits ← Scalar.logTwo constellation
    let size ← Scalar.ofInt constellation
    qamErrorOf size bits energy

/-- The bit error rate of a constellation: two points are BPSK, all others square QAM. -/
def bitErrorRate (snr : α) (constellation : Int) (width rate : α) : Except (Fault α) α :=
  if constellation = 2 then bpskErrorRate snr width rate
  else qamErrorRate snr constellation width rate

end WifiLink
