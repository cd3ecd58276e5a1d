import WifiLink.Estimate
import WifiLink.Mode.Catalogue
import WifiLink.Sweep.Grid

/-!
Sweeps: a set of modes, each estimated at every point of one grid of signal-to-noise ratios.
-/

namespace WifiLink

variable {α : Type} [Scalar α]

/-- What to sweep: modes by name, the channel, the number of bits of a chunk, and the first,
last and step value of the grid in decibels. -/
structure Sweep (α : Type) where
  modes : List String
  width : α
  bits : Literal
  start : α
  stop : α
  step : α
  streams : Int
  guardInterval : Int
  settings : Settings α

/-- The result of one mode at one point; a mode that is not modeled has no success
probability, and its bit error rate is no number. -/
structure SweepRow (α : Type) where
  mode : String
  decibels : α
  errorRate : α
  success : Option α
deriving Repr

namespace Sweep

/-- The row of a mode at one point. -/
def row (sweep : Sweep α) (mode : WifiMode α) (tx : Transmission α) (rate decibels : α) :
    Except (Fault α) (SweepRow α) := do
  let snr := ratioOfDecibels decibels
  match ← estimate tx sweep.settings { mode, snr, bits := sweep.bits } with
  | .modeled success =>
      let errorRate ← bitErrorRate snr mode.constellation tx.width rate
      return ⟨mode.name, decibels, errorRate, some success⟩
  | .unmodeled _ => return ⟨mode.name, decibels, Scalar.notANumber, none⟩

/-- The transmission of a mode and its rate. -/
def send (sweep : Sweep α) (mode : WifiMode α) : Except (Fault α) (Transmission α × α) := do
  let tx ← Transmission.singleUser mode sweep.width sweep.streams sweep.guardInterval
  let rate ← tx.effectiveRate mode commonStation sweep.settings
  return (tx, rate)

/-- The rows of a mode, given by name, at the points of a grid. -/
def modeRows (sweep : Sweep α) (send : WifiMode α → Except (Fault α) (Transmission α × α))
    (grid : Grid α) (name : String) : Except (Fault α) (List (SweepRow α)) := do
  let mode ← standardMode name
  let (tx, rate) ← send mode
  grid.results (sweep.row mode tx rate)

/-- The rows of a sweep, mode after mode, given how a mode is sent. -/
def rowsWith (sweep : Sweep α) (send : WifiMode α → Except (Fault α) (Transmission α × α)) :
    Except (Fault α) (List (SweepRow α)) := do
  let grid ← Grid.between sweep.start sweep.stop sweep.step
  return (← sweep.modes.mapM (sweep.modeRows send grid)).flatten

def rows (sweep : Sweep α) : Except (Fault α) (List (SweepRow α)) := sweep.rowsWith sweep.send

end Sweep

end WifiLink
