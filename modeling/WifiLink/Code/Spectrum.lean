import WifiLink.Fault

/-!
Distance spectra of the punctured convolutional codes: the free distance and how many error
events have it, and for the two-term bound also how many have the next distance.
-/

namespace WifiLink

/-- The first weights of a code. Without a second one the bound has a single term. -/
structure DistanceSpectrum where
  freeDistance : Int
  freeWeight : Int
  nextWeight : Option Int
deriving DecidableEq, Repr

namespace DistanceSpectrum

/-- Whether the bound has a term for the distance after the free one. -/
def twoTerm (spectrum : DistanceSpectrum) : Bool := spectrum.nextWeight.isSome

/-- Rate 1/2 with one term, as for BPSK. -/
def half : DistanceSpectrum := ⟨10, 11, none⟩

/-- Rate 3/4 with one term, as for BPSK. -/
def threeQuarters : DistanceSpectrum := ⟨5, 8, none⟩

/-- Rate 1/2 with two terms; no error event has the next distance. -/
def twoTermHalf : DistanceSpectrum := ⟨10, 11, some 0⟩

def twoTermTwoThirds : DistanceSpectrum := ⟨6, 1, some 16⟩

def twoTermThreeQuarters : DistanceSpectrum := ⟨5, 8, some 31⟩

def twoTermFiveSixths : DistanceSpectrum := ⟨4, 14, some 69⟩

/-- The spectra by constellation and code rate, in the order of both. -/
def table : List (Int × CodeRate × DistanceSpectrum) :=
  [ (2, .half, half),
    (2, .threeQuarters, threeQuarters),
    (4, .half, twoTermHalf),
    (4, .threeQuarters, twoTermThreeQuarters),
    (16, .half, twoTermHalf),
    (16, .threeQuarters, twoTermThreeQuarters),
    (64, .twoThirds, twoTermTwoThirds),
    (64, .threeQuarters, twoTermThreeQuarters),
    (64, .fiveSixths, twoTermFiveSixths),
    (256, .threeQuarters, twoTermThreeQuarters),
    (256, .fiveSixths, twoTermFiveSixths),
    (1024, .threeQuarters, twoTermThreeQuarters),
    (1024, .fiveSixths, twoTermFiveSixths),
    (4096, .threeQuarters, twoTermThreeQuarters),
    (4096, .fiveSixths, twoTermFiveSixths) ]

def lookup {α : Type} (constellation : Int) (key : RateKey) : Except (Fault α) DistanceSpectrum :=
  match key with
  | .rate rate =>
      match table.find? fun entry => entry.1 == constellation && entry.2.1 == rate with
      | some entry => .ok entry.2.2
      | none => .error (.noSpectrum constellation key)
  | .other _ => .error (.noSpectrum constellation key)

/-- The table as cells below a header; a missing second weight is an empty text. -/
def rows : List (List Literal) :=
  ["constellation", "code_rate", "d_free", "ad_free", "ad_free_plus_one"].map Literal.text ::
    table.map fun (constellation, rate, spectrum) =>
      [ .integer constellation, .text rate.text, .integer spectrum.freeDistance,
        .integer spectrum.freeWeight,
        match spectrum.nextWeight with
        | some weight => .integer weight
        | none => .text "" ]

end DistanceSpectrum

end WifiLink
