import WifiLink.Mode.Basic

/-!
The standard modes.
-/

namespace WifiLink

variable {α : Type} [Scalar α]

/-- The four modes of the two oldest classes, each with its fixed rate. -/
def spreadSpectrumModes : List (WifiMode α) :=
  [ ⟨"DsssRate1Mbps", .dsss, 2, .undefined, 1e6⟩,
    ⟨"DsssRate2Mbps", .dsss, 4, .undefined, 2e6⟩,
    ⟨"DsssRate5_5Mbps", .hrDsss, 16, .undefined, 5.5e6⟩,
    ⟨"DsssRate11Mbps", .hrDsss, 256, .undefined, 11e6⟩ ]

/-- The nominal rate in Mbit/s, constellation and code rate of the eight plain OFDM modes. -/
def plainOfdmLadder : List (Nat × Int × CodeRate) :=
  [ (6, 2, .half), (9, 2, .threeQuarters), (12, 4, .half), (18, 4, .threeQuarters),
    (24, 16, .half), (36, 16, .threeQuarters), (48, 64, .twoThirds), (54, 64, .threeQuarters) ]

/-- Constellation and code rate by index, of which each class from the high-throughput one on
uses the beginning. -/
def codingLadder : List (Int × CodeRate) :=
  [ (2, .half), (4, .half), (4, .threeQuarters), (16, .half), (16, .threeQuarters),
    (64, .twoThirds), (64, .threeQuarters), (64, .fiveSixths), (256, .threeQuarters),
    (256, .fiveSixths), (1024, .threeQuarters), (1024, .fiveSixths), (4096, .threeQuarters),
    (4096, .fiveSixths) ]

/-- The plain OFDM modes of a class, named by their nominal rates. -/
def plainOfdmModes (family : String) (modulation : ModulationClass) : List (WifiMode α) :=
  plainOfdmLadder.map fun (rate, constellation, codeRate) =>
    ⟨family ++ toString rate ++ "Mbps", modulation, constellation, codeRate, 0.0⟩

/-- The first modes of the coding ladder in a class, named by their indices. -/
def indexedModes (family : String) (modulation : ModulationClass) (count : Nat) :
    List (WifiMode α) :=
  (codingLadder.take count).mapIdx fun index (constellation, codeRate) =>
    ⟨family ++ toString index, modulation, constellation, codeRate, 0.0⟩

/-- Every standard mode, oldest class first. -/
def standardModes : List (WifiMode α) :=
  spreadSpectrumModes ++ plainOfdmModes "ErpOfdmRate" .erpOfdm ++ plainOfdmModes "OfdmRate" .ofdm ++
    indexedModes "HtMcs" .ht 8 ++ indexedModes "VhtMcs" .vht 10 ++ indexedModes "HeMcs" .he 12 ++
    indexedModes "EhtMcs" .eht 14

def standardMode (name : String) : Except (Fault α) (WifiMode α) :=
  match standardModes.find? (·.name == name) with
  | some mode => .ok mode
  | none => .error (.unknownMode name)

end WifiLink
