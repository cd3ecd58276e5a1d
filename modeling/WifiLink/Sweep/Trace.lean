import WifiLink.Sweep.Basic
import WifiLink.Trace

/-!
The debug log of a sweep: at each point the lines of the estimate, then once more that of the
bit error rate for the row.
-/

namespace WifiLink.Sweep

/-- The lines of a mode at one point of the grid. -/
def pointTrace (sweep : Sweep Float) (mode : WifiMode Float) (tx : Transmission Float)
    (rate decibels : Float) : List TraceEvent :=
  let snr := ratioOfDecibels decibels
  let again :=
    if mode.isCodedOfdm then
      (Trace.value? (bitErrorRate snr mode.constellation tx.width rate)).map
        (Trace.ofErrorRate snr mode.constellation rate)
    else none
  Trace.ofEstimate tx sweep.settings { mode, snr, bits := sweep.bits } ++ again.toList

/-- The lines of a mode, given by name, at the points of a grid. -/
def modeTrace (sweep : Sweep Float) (grid : List Float) (name : String) : List TraceEvent :=
  let events := do
    let mode ← standardMode name
    let (tx, rate) ← sweep.send mode
    return Trace.ofRate tx sweep.settings mode commonStation ++
      grid.flatMap (sweep.pointTrace mode tx rate)
  (Trace.value? events).getD []

/-- The lines of a sweep that succeeds. -/
def trace (sweep : Sweep Float) : List TraceEvent :=
  match decibelGrid sweep.start sweep.stop sweep.step with
  | .ok grid => sweep.modes.flatMap (sweep.modeTrace grid)
  | .error _ => []

end WifiLink.Sweep
