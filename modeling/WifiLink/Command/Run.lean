import WifiLink.Command.Options
import WifiLink.Command.Session
import WifiLink.Picture.Axis
import WifiLink.Settings.Document
import WifiLink.Sweep.Table
import WifiLink.Sweep.Trace
import WifiLink.Text.Columns
import WifiLink.Text.LowerCase

/-!
The command: it answers one query, prints the distance spectra, or sweeps modes over a grid and
saves or prints the result. What is wrong with the question is found before anything is printed
or saved; only what a figure alone needs, its title and its axis, is found when it is saved.
-/

namespace WifiLink.Command

/-- The line of complaint about a command line. -/
def UsageFault.line (fault : UsageFault) : String := "yans-error: error: " ++ fault.message ++ "\n"

/-- Makes a file and the folders it is in. -/
def saveIn (place : Location) (content : Content) : Action Unit := do
  store fun storage => storage.makeFolders place.folder
  store fun storage => storage.save place content

/-- Saves a figure in the format of the suffix, whatever its case; without one it gets that of a
PNG picture. The axis is found before the format, and the file is made before the texts of the
figure are measured. -/
def saveFigure (place : Location) (figure : Figure Float) : Action Unit := do
  store fun storage => storage.makeFolders place.folder
  let figure ← calculate figure.drawable
  let suffix := Text.lowerCase place.suffix
  if suffix = "" then store fun storage => storage.save (place.withSuffix "png") (.figure figure)
  else if suffix ∉ pictureFormats then throw (.storage (.pictureFormat suffix))
  else
    store fun storage => storage.save place (.figure figure)
    if suffix = typesetFormat then throw (.storage .typesetterMissing)

/-- The bytes of a text in UTF-8. -/
def bytesOf : Content → List Nat
  | .bytes bytes => bytes
  | .text text => text.toUTF8.toList.map UInt8.toNat
  | .figure _ => []

/-- The settings of the file the options name, or the standard ones. -/
def settingsFor (options : Options) : Action (Settings Float) :=
  match options.config with
  | none => return .standard
  | some place => do
      let content ← readFile place
      calculate (Settings.ofBytes (bytesOf content))

def printTable (rows : List (List String)) : Action Unit := do
  printLines (← calculate (Text.columnLines rows))

/-- A value that is used, unless it is missing. -/
def required {β : Type} (quantity : Quantity) : Option β → Except (Fault Float) β
  | some value => .ok value
  | none => .error (.valueMissing quantity)

/-- First, last and step value of the range of a sweep. -/
def rangeOf (text : String) : Except UsageFault (Float × Float × Float) :=
  match (Text.split ':' text).mapM Numeral.ofText? with
  | some [start, stop, step] =>
      .ok (Scalar.ofNumeral start, Scalar.ofNumeral stop, Scalar.ofNumeral step)
  | _ => .error .rangeMalformed

namespace Options

/-- The modes of a sweep by name, blank names left out. -/
def sweepNames (options : Options) : List String :=
  ((Text.split ',' options.sweep).map Text.strip).filter (· != "")

/-- A transmission in a payload mode as the options describe it. The number of streams and the
guard interval count as usual ones here if they are missing. -/
def transmission (options : Options) (payload : WifiMode Float) :
    Except (Fault Float) (Transmission Float) := do
  let width ← required .width options.width
  Transmission.singleUser payload width (options.streams.getD 1) (options.guardInterval.getD 800)

/-- The rate of a chunk in a mode. That of the payload may ask for a number of streams or a guard
interval that is missing. -/
def rate (options : Options) (settings : Settings Float) (tx : Transmission Float)
    (mode : WifiMode Float) : Except (Fault Float) Float := do
  match ← tx.rateBasis mode commonStation with
  | .header => tx.rateOn .header mode commonStation settings
  | .payload =>
      let payload ← tx.modeFor commonStation
      payload.phyRateWith tx.width (required .streams options.streams) do
        guardTime (← required .guardInterval options.guardInterval)

/-- The transmission of a mode of a sweep and its rate. -/
def send (options : Options) (settings : Settings Float) (mode : WifiMode Float) :
    Except (Fault Float) (Transmission Float × Float) := do
  let tx ← options.transmission mode
  let rate ← options.rate settings tx mode
  return (tx, rate)

/-- The sweep that the options describe, over a given range. -/
def sweepOver (options : Options) (settings : Settings Float) (range : Float × Float × Float) :
    Sweep Float where
  modes := options.sweepNames
  width := options.width.getD 20.0
  bits := options.bits
  start := range.1
  stop := range.2.1
  step := range.2.2
  streams := options.streams.getD 1
  guardInterval := options.guardInterval.getD 800
  settings := settings

def figureTitle (options : Options) : Except (Fault Float) String := do
  let width ← required .widthInTitle options.width
  return Decimal.general 6 width ++ " MHz, " ++ options.bits.display ++ " bits"

end Options

/-- Sweeps the modes; the rows go to the files that are named, or are printed if none is. -/
def runSweep (options : Options) (settings : Settings Float) : Action Unit := do
  let text ← calculate (required .sweepRange options.snrRange)
  let range ← understand (rangeOf text)
  let sweep := options.sweepOver settings range
  let rows ← calculate (sweep.rowsWith (options.send settings))
  if options.verbose then logEvents sweep.trace
  if let some place := options.out then
    saveIn place (.text (SweepRow.csv rows))
    printLines ["Saved " ++ toString rows.length ++ " rows to " ++ place.text]
  if let some place := options.plot then
    saveFigure place (figure rows (← calculate options.figureTitle))
    printLines ["Saved plot to " ++ place.text]
  if options.out.isNone && options.plot.isNone then printTable (SweepRow.table rows)

def answerLine (width decibels : Float) (bits : Literal) (mode : WifiMode Float) :
    Estimate Float → String
  | .modeled success =>
      mode.name ++ " " ++ Decimal.general 6 width ++ " MHz snr=" ++
        Decimal.general 6 decibels ++ " dB nbits=" ++ bits.display ++
        ": success=" ++ Decimal.general 12 success
  | .unmodeled modulation => mode.name ++ ": unmodeled (" ++ modulation.name ++ ")"

/-- The field of a query. An empty list of values is none. -/
def fieldOf (options : Options) : Except (Fault Float) PpduField :=
  match options.field with
  | some field => .ok field
  | none => .error (.unknownField (.list []))

def runQuery (options : Options) (settings : Settings Float) : Action Unit := do
  let mode ← calculate (standardMode options.mode)
  let payload ←
    if options.payloadMode = "" then pure mode else calculate (standardMode options.payloadMode)
  let tx ← calculate (options.transmission payload)
  let decibels ← calculate (required .decibels options.snrDecibels)
  let field ← calculate (fieldOf options)
  let chunk : Chunk Float :=
    { mode, snr := ratioOfDecibels decibels, bits := options.bits, field }
  let result ← calculate (estimateWith tx (options.rate settings tx mode) chunk)
  if options.verbose then logEvents (Trace.ofEstimate tx settings chunk)
  printLines [answerLine tx.width decibels options.bits mode result]

/-- Does what the options ask for: first the table, then the sweep, else a query. -/
def runOptions (options : Options) : Action Unit := do
  let settings ← settingsFor options
  if options.table then printTable (DistanceSpectrum.rows.map (·.map Literal.display))
  else if options.sweep ≠ "" then runSweep options settings
  else runQuery options settings

/-- The names that a field can be given by, as the manual lists them. -/
def fieldChoices : String := "\x7b" ++ ",".intercalate (PpduField.all.map PpduField.text) ++ "\x7d"

/-- The manual as the argument parser lays it out in 80 columns. -/
def manual : List String :=
  [ "usage: yans-error [-h] [--mode MODE] [--width WIDTH] [--snr-db SNR_DB]",
    "                  [--nbits NBITS] [--nss NSS] [--gi GI]",
    "                  [--field " ++ fieldChoices ++ "]",
    "                  [--payload-mode PAYLOAD_MODE] [--table] [--sweep SWEEP]",
    "                  [--snr-range SNR_RANGE] [--out OUT] [--plot PLOT]",
    "                  [--config CONFIG] [--verbose]",
    "",
    "Wi-Fi chunk success probability (YANS error model)",
    "",
    "options:",
    "  -h, --help            show this help message and exit",
    "  --mode MODE           mode name, e.g. OfdmRate6Mbps, HeMcs7",
    "  --width WIDTH         channel width (MHz)",
    "  --snr-db SNR_DB",
    "  --nbits NBITS",
    "  --nss NSS",
    "  --gi GI               guard interval (ns)",
    "  --field " ++ fieldChoices,
    "  --payload-mode PAYLOAD_MODE",
    "                        payload mode when --mode is a header mode",
    "  --table               print the distance spectrum table and exit",
    "  --sweep SWEEP         comma-separated mode names to sweep over SNR",
    "  --snr-range SNR_RANGE",
    "                        start:stop:step in dB for --sweep",
    "  --out OUT             CSV output for --sweep",
    "  --plot PLOT           PNG output for --sweep",
    "  --config CONFIG       estimator settings file (key: value)",
    "  --verbose             debug logging" ]

def run (arguments : List String) (dashes : AttachedDashes := .emptyList) : Action Unit := do
  match ← understand (Request.ofWords arguments dashes) with
  | .help => printLines manual
  | .run options => runOptions options

/-- The outcome of a command line from a given state: how it ends, and what it has done. -/
def outcome (arguments : List String) (session : Session)
    (dashes : AttachedDashes := .emptyList) : Except Failure Unit × Session :=
  (run arguments dashes).run.run session

end WifiLink.Command
