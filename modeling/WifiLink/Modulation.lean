/-!
Modulation classes and constellation sizes of Wi-Fi transmissions.
-/

namespace WifiLink

/-- The families of modulation, by generation of the standard. -/
inductive ModulationClass where
  | dsss
  | hrDsss
  | erpOfdm
  | ofdm
  | ht
  | vht
  | he
  | eht
deriving DecidableEq, Repr

namespace ModulationClass

def all : List ModulationClass := [dsss, hrDsss, erpOfdm, ofdm, ht, vht, he, eht]

/-- The place of a class in the order of generations, from one on. -/
def generation : ModulationClass → Nat
  | dsss => 1
  | hrDsss => 2
  | erpOfdm => 3
  | ofdm => 4
  | ht => 5
  | vht => 6
  | he => 7
  | eht => 8

def name : ModulationClass → String
  | dsss => "DSSS"
  | hrDsss => "HR_DSSS"
  | erpOfdm => "ERP_OFDM"
  | ofdm => "OFDM"
  | ht => "HT"
  | vht => "VHT"
  | he => "HE"
  | eht => "EHT"

def ofName? (text : String) : Option ModulationClass := all.find? (·.name == text)

theorem ofName?_name (c : ModulationClass) : ofName? c.name = some c := by cases c <;> rfl

/-- Whether transmissions of the class are convolutionally coded OFDM, which is what the error
model describes. -/
def isCodedOfdm (c : ModulationClass) : Bool := erpOfdm.generation ≤ c.generation

end ModulationClass

/-- The numbers of points of the constellations in use. -/
def constellationSizes : List Int := [2, 4, 16, 64, 256, 1024, 4096]

end WifiLink
