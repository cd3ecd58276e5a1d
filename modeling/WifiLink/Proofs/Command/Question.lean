import WifiLink.Command.Run
import WifiLink.Proofs.Sweep.Rows

/-!
# What is wrong with a command

A command asks for the settings of a file, for the rows of a sweep or for one estimate. Each is
there, or one of a few things is wrong with the question: a file that cannot be read, a range that
is none, an unknown mode, a transmission that cannot be, a point without an estimate, or a figure
whose title lacks the width.
-/

namespace WifiLink.Command

/-! ## Settings -/

/-- The settings that a command works with, those of a file or the standard ones. -/
inductive Configured (storage : Storage) (options : Options) : Settings Float → Prop
  | standard : options.config = none → Configured storage options .standard
  | file {place : Location} {content : Content} {settings : Settings Float} :
      options.config = some place → storage.read place = .ok content →
        Settings.ofBytes (bytesOf content) = .ok settings → Configured storage options settings

/-- The file of the settings cannot be read, or its text is none of settings. -/
inductive Misconfigured (storage : Storage) (options : Options) : Prop
  | unreadable {place : Location} {fault : StorageFault} :
      options.config = some place → storage.read place = .error fault →
        Misconfigured storage options
  | invalid {place : Location} {content : Content} {fault : Fault Float} :
      options.config = some place → storage.read place = .ok content →
        Settings.ofBytes (bytesOf content) = .error fault → Misconfigured storage options

section Configuration

variable {storage : Storage} {options : Options} {settings others : Settings Float}

theorem Configured.unique (configured : Configured storage options settings)
    (other : Configured storage options others) : others = settings := by
  cases configured with
  | standard absent =>
      cases other with
      | standard _ => rfl
      | file given _ _ => cases absent.symm.trans given
  | file given found valid =>
      cases other with
      | standard absent => cases absent.symm.trans given
      | file given' found' valid' =>
          cases given.symm.trans given'
          cases found.symm.trans found'
          exact Except.ok.inj (valid'.symm.trans valid)

theorem Configured.not_misconfigured (configured : Configured storage options settings) :
    ¬Misconfigured storage options := by
  intro wrong
  cases configured with
  | standard absent =>
      cases wrong with
      | unreadable given _ => cases absent.symm.trans given
      | invalid given _ _ => cases absent.symm.trans given
  | file given found valid =>
      cases wrong with
      | unreadable given' unreadable =>
          cases given.symm.trans given'
          cases found.symm.trans unreadable
      | invalid given' found' invalid =>
          cases given.symm.trans given'
          cases found.symm.trans found'
          cases valid.symm.trans invalid

end Configuration

/-! ## Sweeps -/

/-- The grid of a sweep. -/
def Spaced (options : Options) (grid : Grid Float) : Prop :=
  ∃ text range, options.snrRange = some text ∧ rangeOf text = .ok range ∧
    Grid.between range.1 range.2.1 range.2.2 = .ok grid

/-- The mode is one of the sweep, and this is how it is sent. -/
structure Sent (options : Options) (settings : Settings Float) (mode : WifiMode Float)
    (tx : Transmission Float) (rate : Float) : Prop where
  listed : ∃ name ∈ options.sweepNames, standardMode name = .ok mode
  sent : options.send settings mode = .ok (tx, rate)

/-- What keeps a sweep from having rows. -/
inductive SweepFlaw (options : Options) (settings : Settings Float) : Prop
  | rangeMissing : options.snrRange = none → SweepFlaw options settings
  | rangeMalformed {text : String} {fault : UsageFault} :
      options.snrRange = some text → rangeOf text = .error fault → SweepFlaw options settings
  | grid {text : String} {range : Float × Float × Float} {fault : Fault Float} :
      options.snrRange = some text → rangeOf text = .ok range →
        Grid.between range.1 range.2.1 range.2.2 = .error fault → SweepFlaw options settings
  | mode {name : String} {fault : Fault Float} :
      name ∈ options.sweepNames →
        (standardMode name : Except (Fault Float) (WifiMode Float)) = .error fault →
          SweepFlaw options settings
  | transmission {name : String} {mode : WifiMode Float} {fault : Fault Float} :
      name ∈ options.sweepNames → standardMode name = .ok mode →
        options.send settings mode = .error fault → SweepFlaw options settings
  | estimate {grid : Grid Float} {mode : WifiMode Float} {tx : Transmission Float}
      {rate decibels : Float} {fault : Fault Float} :
      Spaced options grid → decibels ∈ grid.values → Sent options settings mode tx rate →
        estimate tx settings { mode, snr := ratioOfDecibels decibels, bits := options.bits } =
          .error fault → SweepFlaw options settings
  | errorRate {grid : Grid Float} {mode : WifiMode Float} {tx : Transmission Float}
      {rate decibels success : Float} {fault : Fault Float} :
      Spaced options grid → decibels ∈ grid.values → Sent options settings mode tx rate →
        estimate tx settings { mode, snr := ratioOfDecibels decibels, bits := options.bits } =
          .ok (.modeled success) →
        bitErrorRate (ratioOfDecibels decibels) mode.constellation tx.width rate = .error fault →
          SweepFlaw options settings

/-- The rows of a sweep. -/
def Swept (options : Options) (settings : Settings Float) (rows : List (SweepRow Float)) : Prop :=
  ∃ text range, options.snrRange = some text ∧ rangeOf text = .ok range ∧
    (options.sweepOver settings range).rowsWith (options.send settings) = .ok rows

section Sweeping

variable {options : Options} {settings : Settings Float}

theorem Swept.not_sweepFlaw {rows : List (SweepRow Float)} (swept : Swept options settings rows) :
    ¬SweepFlaw options settings := by
  obtain ⟨text, range, given, read, answered⟩ := swept
  obtain ⟨grid, spaced, each⟩ := Sweep.exists_rowsWith_iff.mp ⟨rows, answered⟩
  have grid_unique {other : Grid Float} (otherSpaced : Spaced options other) : other = grid := by
    obtain ⟨text', range', given', read', spaced'⟩ := otherSpaced
    cases given.symm.trans given'
    cases read.symm.trans read'
    exact Except.ok.inj (spaced'.symm.trans spaced)
  have row_of_sent {mode : WifiMode Float} {tx : Transmission Float} {rate decibels : Float}
      (sent : Sent options settings mode tx rate) (point : decibels ∈ grid.values) :
      ∃ row, (options.sweepOver settings range).row mode tx rate decibels = .ok row := by
    obtain ⟨⟨name, listed, found⟩, sends⟩ := sent
    obtain ⟨mode', tx', rate', found', sends', rowAt⟩ := each name listed
    cases found.symm.trans found'
    cases sends.symm.trans sends'
    exact rowAt decibels point
  intro flaw
  cases flaw with
  | rangeMissing absent => cases given.symm.trans absent
  | rangeMalformed given' malformed =>
      cases given.symm.trans given'
      cases read.symm.trans malformed
  | grid given' read' unspaced =>
      cases given.symm.trans given'
      cases read.symm.trans read'
      cases spaced.symm.trans unspaced
  | mode listed unknown =>
      obtain ⟨mode, _, _, found, _⟩ := each _ listed
      cases found.symm.trans unknown
  | transmission listed found unsent =>
      obtain ⟨mode, _, _, found', sent, _⟩ := each _ listed
      cases found.symm.trans found'
      cases sent.symm.trans unsent
  | estimate otherSpaced point sent failed =>
      cases grid_unique otherSpaced
      obtain ⟨result, estimated, _⟩ := Sweep.exists_row_iff.mp (row_of_sent sent point)
      cases estimated.symm.trans failed
  | errorRate otherSpaced point sent modeled failed =>
      cases grid_unique otherSpaced
      obtain ⟨result, estimated, received⟩ := Sweep.exists_row_iff.mp (row_of_sent sent point)
      cases estimated.symm.trans modeled
      obtain ⟨errorRate, received⟩ := received _ rfl
      cases received.symm.trans failed

end Sweeping

/-! ## Queries -/

/-- The name of the mode of the payload. -/
def Options.payloadName (options : Options) : String :=
  if options.payloadMode = "" then options.mode else options.payloadMode

/-- The chunk of a query and the transmission that it is in. -/
structure Asked (options : Options) (tx : Transmission Float) (chunk : Chunk Float) : Prop where
  mode : standardMode options.mode = .ok chunk.mode
  transmission : ∃ payload, standardMode options.payloadName = .ok payload ∧
    options.transmission payload = .ok tx
  snr : ∃ decibels, options.snrDecibels = some decibels ∧ chunk.snr = ratioOfDecibels decibels
  bits : chunk.bits = options.bits
  field : options.field = some chunk.field
  station : chunk.station = commonStation

/-- What keeps a query from an answer. -/
inductive QueryFlaw (options : Options) (settings : Settings Float) : Prop
  | mode {fault : Fault Float} :
      (standardMode options.mode : Except (Fault Float) (WifiMode Float)) = .error fault →
        QueryFlaw options settings
  | payloadMode {fault : Fault Float} :
      (standardMode options.payloadName : Except (Fault Float) (WifiMode Float)) = .error fault →
        QueryFlaw options settings
  | transmission {payload : WifiMode Float} {fault : Fault Float} :
      standardMode options.payloadName = .ok payload →
        options.transmission payload = .error fault → QueryFlaw options settings
  | decibels : options.snrDecibels = none → QueryFlaw options settings
  | field : options.field = none → QueryFlaw options settings
  | estimate {tx : Transmission Float} {chunk : Chunk Float} {fault : Fault Float} :
      Asked options tx chunk →
        estimateWith tx (options.rate settings tx chunk.mode) chunk = .error fault →
          QueryFlaw options settings

section Querying

variable {options : Options} {settings : Settings Float} {tx : Transmission Float}
  {chunk : Chunk Float}

theorem Asked.unique (asked : Asked options tx chunk) {tx' : Transmission Float}
    {chunk' : Chunk Float} (other : Asked options tx' chunk') : tx' = tx ∧ chunk' = chunk := by
  obtain ⟨mode, ⟨payload, found, made⟩, ⟨decibels, given, snr⟩, bits, field, station⟩ := asked
  obtain ⟨mode', ⟨payload', found', made'⟩, ⟨decibels', given', snr'⟩, bits', field', station'⟩ :=
    other
  cases found.symm.trans found'
  cases given.symm.trans given'
  refine ⟨Except.ok.inj (made'.symm.trans made), ?_⟩
  cases chunk
  cases chunk'
  congr 1
  · exact Except.ok.inj (mode'.symm.trans mode)
  · exact snr'.trans snr.symm
  · exact bits'.trans bits.symm
  · exact Option.some.inj (field'.symm.trans field)
  · exact station'.trans station.symm

end Querying

/-! ## Commands -/

/-- The command line is one with options, and these are the settings of the command. -/
structure Commands (arguments : List String) (dashes : AttachedDashes) (storage : Storage)
    (options : Options) (settings : Settings Float) : Prop where
  request : Request.ofWords arguments dashes = .ok (.run options)
  configured : Configured storage options settings

/-- A figure is to be made, and the width that its title names is missing. -/
structure Options.Untitled (options : Options) : Prop where
  plot : options.plot.isSome
  width : options.width = none

/-- What is wrong with a command, given the files and folders that are there. A missing title is
found out before a file is made if no table is saved ahead of the figure. -/
inductive Flawed (arguments : List String) (dashes : AttachedDashes) (storage : Storage) : Prop
  | arguments {fault : UsageFault} :
      Request.ofWords arguments dashes = .error fault → Flawed arguments dashes storage
  | settings {options : Options} :
      Request.ofWords arguments dashes = .ok (.run options) → Misconfigured storage options →
        Flawed arguments dashes storage
  | sweep {options : Options} {settings : Settings Float} :
      Commands arguments dashes storage options settings → options.table = false →
        options.sweep ≠ "" → SweepFlaw options settings → Flawed arguments dashes storage
  | title {options : Options} {settings : Settings Float} :
      Commands arguments dashes storage options settings → options.table = false →
        options.sweep ≠ "" → options.out = none → options.Untitled →
          Flawed arguments dashes storage
  | query {options : Options} {settings : Settings Float} :
      Commands arguments dashes storage options settings → options.table = false →
        options.sweep = "" → QueryFlaw options settings → Flawed arguments dashes storage

theorem Commands.not_flawed {arguments : List String} {dashes : AttachedDashes}
    {storage : Storage} {options : Options} {settings : Settings Float}
    (commands : Commands arguments dashes storage options settings)
    (sweep : options.table = false → options.sweep ≠ "" →
      ¬SweepFlaw options settings ∧ (options.out = none → ¬options.Untitled))
    (query : options.table = false → options.sweep = "" → ¬QueryFlaw options settings) :
    ¬Flawed arguments dashes storage := by
  obtain ⟨request, configured⟩ := commands
  intro flawed
  cases flawed with
  | arguments unreadable => cases request.symm.trans unreadable
  | settings request' wrong =>
      cases request.symm.trans request'
      exact configured.not_misconfigured wrong
  | sweep other noTable sweeps flaw =>
      cases request.symm.trans other.request
      cases configured.unique other.configured
      exact (sweep noTable sweeps).1 flaw
  | title other noTable sweeps untabled untitled =>
      cases request.symm.trans other.request
      exact (sweep noTable sweeps).2 untabled untitled
  | query other noTable noSweep flaw =>
      cases request.symm.trans other.request
      cases configured.unique other.configured
      exact query noTable noSweep flaw

/-! ## Widths

With a later argument parser no option leaves the width missing.
-/

section Widths

variable {options set : Options} {flag : Flag} {value : String}

end Widths

end WifiLink.Command
