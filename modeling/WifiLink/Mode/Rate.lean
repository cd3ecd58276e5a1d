import WifiLink.Mode.Basic

/-!
Bit rates of a mode on a channel. The coded rate counts every bit on the air: data subcarriers,
times bits per constellation point, times spatial streams, over the time of a symbol.
-/

namespace WifiLink

variable {α : Type} [Scalar α]

/-- The data subcarriers of a 20 MHz channel, for the classes from the high-throughput one on. -/
def baseSubcarriers : ModulationClass → Int
  | .he | .eht => 234
  | _ => 52

/-- The data subcarriers by channel width in MHz. -/
def subcarrierTable : ModulationClass → List (α × Int)
  | .ht => [(20.0, 52), (40.0, 108)]
  | .vht => [(20.0, 52), (40.0, 108), (80.0, 234), (160.0, 468)]
  | _ => [(20.0, 234), (40.0, 468), (80.0, 980), (160.0, 1960), (320.0, 3920)]

/-- The data subcarriers of a channel: those of the table, and below 20 MHz the share of the
20 MHz channel, but at least one. -/
def subcarriers (modulation : ModulationClass) (width : α) : Except (Fault α) Int :=
  match (subcarrierTable modulation).find? fun entry => Scalar.same width entry.1 with
  | some entry => .ok entry.2
  | none =>
      if width < 20.0 then do
        let base ← Scalar.ofInt (baseSubcarriers modulation)
        let share ← Scalar.floor (base * width / 20.0 : α)
        return max 1 share
      else .error (.unsupportedWidth width)

/-- The time of a symbol in seconds without its guard interval. -/
def usefulSymbolTime : ModulationClass → α
  | .he | .eht => 12.8e-6
  | _ => 3.2e-6

/-- The time in seconds of a guard interval in nanoseconds. -/
def guardTime (guardInterval : Int) : Except (Fault α) α := do
  let nanoseconds : α ← Scalar.ofInt guardInterval
  return nanoseconds * 1e-9

namespace WifiMode

/-- The coded bit rate in bits per second on a channel of a width in MHz, given where the number
of streams and the time of the guard interval come from. Every class asks for the streams; only
those from the high-throughput one on have a guard interval of their own. The plain OFDM classes
fill 20 MHz at most: a narrower channel slows them down and a wider one repeats them. -/
def phyRateWith (mode : WifiMode α) (width : α) (streams : Except (Fault α) Int)
    (guardTime : Except (Fault α) α) : Except (Fault α) α :=
  if width ≤ 0.0 then .error .widthNotPositive
  else do
    let count ← streams
    if count < 1 then .error .noSpatialStream
    else
      match mode.modulation with
      | .dsss | .hrDsss => .ok mode.fixedRate
      | .erpOfdm | .ofdm => do
          let bits ← mode.bitsPerSymbol
          let symbol ← Scalar.ofInt (48 * bits)
          return symbol * (Scalar.least width 20.0 / 20.0) / 4e-6
      | modulation => do
          let carriers ← subcarriers modulation width
          let symbolTime := usefulSymbolTime modulation + (← guardTime)
          let bits ← mode.bitsPerSymbol
          let symbol ← Scalar.ofInt (carriers * bits * count)
          Scalar.quotient symbol symbolTime

/-- The coded bit rate in bits per second on a channel of a width in MHz, with a number of streams
and a guard interval in nanoseconds. -/
def phyRate (mode : WifiMode α) (width : α) (streams : Int := 1) (guardInterval : Int := 800) :
    Except (Fault α) α :=
  mode.phyRateWith width (.ok streams) (guardTime guardInterval)

/-- The rate of information bits: the coded rate times the code rate. -/
def dataRate (mode : WifiMode α) (width : α) (streams : Int := 1) (guardInterval : Int := 800) :
    Except (Fault α) α := do
  let coded ← mode.phyRate width streams guardInterval
  let numerator : α ← Scalar.ofInt mode.codeRate.ratio.1
  let denominator ← Scalar.ofInt mode.codeRate.ratio.2
  return coded * (numerator / denominator)

end WifiMode

end WifiLink
