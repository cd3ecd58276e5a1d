import WifiLink.Double.Arithmetic
import WifiLink.Estimate

/-!
What an estimate goes through, as the lines of a debug log.
-/

namespace WifiLink

/-- A step of an estimate that is worth a line. -/
inductive TraceEvent where
  | bpsk (snr errorRate : Float)
  | qam (constellation : Int) (rate snr errorRate : Float)
  | pairwise (errorRate : Float) (distance : Int) (probability : Float)
  | header (mode : String) (width : Float)
  | unmodeled (mode : String) (modulation : ModulationClass)
  | estimated (chunk : Chunk Float) (errorRate success : Float)

namespace TraceEvent

/-- The part of the program that a line is attributed to. -/
def source : TraceEvent → String
  | bpsk .. | qam .. => "yans_error.ber"
  | pairwise .. => "yans_error.fec"
  | header .. | unmodeled .. | estimated .. => "yans_error.chunk"

/-- A number as lines of the log show it. -/
def number (x : Float) : String := Decimal.general 6 x

def message : TraceEvent → String
  | bpsk snr errorRate => "bpsk snr=" ++ number snr ++ " ber=" ++ number errorRate
  | qam constellation rate snr errorRate =>
      "qam m=" ++ toString constellation ++ " rate=" ++ number rate ++ " snr=" ++ number snr ++
        " ber=" ++ number errorRate
  | pairwise errorRate distance probability =>
      "pd ber=" ++ number errorRate ++ " d=" ++ toString distance ++ " pd=" ++ number probability
  | header mode width => "header rate for " ++ mode ++ " at " ++ number width ++ " MHz"
  | unmodeled mode modulation => "mode " ++ mode ++ " (" ++ modulation.name ++ ") is not modeled"
  | estimated chunk errorRate success =>
      "mode=" ++ chunk.mode.name ++ " field=" ++ chunk.field.text ++ " sta=" ++
        toString chunk.station ++ " snr=" ++ number chunk.snr ++ " nbits=" ++ chunk.bits.display ++
        " ber=" ++ number errorRate ++ " psr=" ++ number success

def line (event : TraceEvent) : String := "DEBUG " ++ event.source ++ ": " ++ event.message ++ "\n"

end TraceEvent

namespace Trace

/-- The value of a calculation, if it has one. -/
def value? {β : Type} : Except (Fault Float) β → Option β
  | .ok value => some value
  | .error _ => none

def ofErrorRate (snr : Float) (constellation : Int) (rate errorRate : Float) : TraceEvent :=
  if constellation = 2 then .bpsk snr errorRate else .qam constellation rate snr errorRate

def ofPairwise (errorRate : Float) (distance : Int) : Option TraceEvent :=
  (value? (pairwiseError errorRate distance)).map (.pairwise errorRate distance)

/-- The lines of a survival: one for each term of the bound, none without bit errors. -/
def ofSurvival (errorRate : Float) (spectrum : DistanceSpectrum) : List TraceEvent :=
  if Scalar.same errorRate 0.0 then []
  else
    let distances :=
      if spectrum.twoTerm then [spectrum.freeDistance, spectrum.freeDistance + 1]
      else [spectrum.freeDistance]
    distances.filterMap (ofPairwise errorRate)

/-- The line of a rate, if it is that of headers. -/
def ofRate (tx : Transmission Float) (settings : Settings Float) (mode : WifiMode Float)
    (station : Int) : List TraceEvent :=
  match tx.rateBasis mode station with
  | .ok .header => [.header mode.name (tx.headerWidth settings)]
  | _ => []

/-- The lines of an estimate with a probability. -/
def ofModeled (tx : Transmission Float) (settings : Settings Float) (chunk : Chunk Float)
    (success : Float) : Option (List TraceEvent) := do
  let mode := chunk.mode
  let spectrum ← value? (DistanceSpectrum.lookup mode.constellation (.rate mode.codeRate))
  let rate ← value? (tx.effectiveRate mode chunk.station settings)
  let errorRate ← value? (bitErrorRate chunk.snr mode.constellation tx.width rate)
  return ofRate tx settings mode chunk.station ++
    [ofErrorRate chunk.snr mode.constellation rate errorRate] ++ ofSurvival errorRate spectrum ++
    [.estimated chunk errorRate success]

/-- The lines of an estimate that succeeds. -/
def ofEstimate (tx : Transmission Float) (settings : Settings Float) (chunk : Chunk Float) :
    List TraceEvent :=
  match estimate tx settings chunk with
  | .ok (.modeled success) => (ofModeled tx settings chunk success).getD []
  | .ok (.unmodeled modulation) => [.unmodeled chunk.mode.name modulation]
  | .error _ => []

end Trace

end WifiLink
