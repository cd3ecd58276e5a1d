import WifiLink.Code.Survival
import WifiLink.PpduField
import WifiLink.Transmission

/-!
The probability that a chunk of a transmission arrives without an uncorrectable error. The main
function is `estimate`; `successRate` gives a number in every case.
-/

namespace WifiLink

variable {α : Type} [Scalar α]

/-- A chunk of bits of one field: its mode, the linear signal-to-noise ratio over the channel,
the number of bits as it was given, the field and the receiving station. -/
structure Chunk (α : Type) where
  mode : WifiMode α
  snr : α
  bits : Literal
  field : PpduField := .data
  station : Int := commonStation

/-- A probability, or the class of a mode that the error model does not describe. -/
inductive Estimate (α : Type) where
  | modeled (probability : α)
  | unmodeled (modulation : ModulationClass)
deriving Repr

/-- A number of bits is an integer from zero on. -/
def bitCount (bits : Literal) : Except (Fault α) Int :=
  match bits with
  | .integer count => if count < 0 then .error (.bitsNegative count) else .ok count
  | other => .error (.bitsNotInteger other)

/-- The bit error rate and the survival of a chunk whose coded rate is known. -/
def survivalAt (tx : Transmission α) (constellation : Int) (snr : α) (bits : Int) (rate : α)
    (spectrum : DistanceSpectrum) : Except (Fault α) α := do
  let errorRate ← bitErrorRate snr constellation tx.width rate
  chunkSurvival errorRate bits spectrum

def checkSnr (snr : α) : Except (Fault α) Unit :=
  if Scalar.isNaN snr ∨ snr < 0.0 then .error (.invalidSnr snr) else .ok ()

/-- Estimates a chunk, given where its rate comes from. -/
def estimateWith (tx : Transmission α) (rate : Except (Fault α) α) (chunk : Chunk α) :
    Except (Fault α) (Estimate α) := do
  checkSnr chunk.snr
  let bits ← bitCount chunk.bits
  if chunk.mode.isCodedOfdm then
    let spectrum ← DistanceSpectrum.lookup chunk.mode.constellation (.rate chunk.mode.codeRate)
    let rate ← rate
    return .modeled (← survivalAt tx chunk.mode.constellation chunk.snr bits rate spectrum)
  else return .unmodeled chunk.mode.modulation

/-- Estimates a chunk of a transmission. -/
def estimate (tx : Transmission α) (settings : Settings α) (chunk : Chunk α) :
    Except (Fault α) (Estimate α) :=
  estimateWith tx (tx.effectiveRate chunk.mode chunk.station settings) chunk

/-- An estimate as a number; nothing is expected to arrive in a mode that is not modeled. -/
def Estimate.rate : Estimate α → α
  | .modeled probability => probability
  | .unmodeled _ => 0.0

def successRate (tx : Transmission α) (settings : Settings α) (chunk : Chunk α) :
    Except (Fault α) α := do
  return (← estimate tx settings chunk).rate

end WifiLink
