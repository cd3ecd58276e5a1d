import WifiLink.Proofs.Code.SpectrumOrder
import WifiLink.Proofs.Estimate.Outcome

/-!
# The order of code rates in estimates

The coded bit rate does not depend on the code rate, so two modes that differ in the code rate
alone have the same energy per bit and the same bit error rate. Of the two the lower code rate
has the smaller union bound there, and survives with the greater probability.
-/

namespace WifiLink

open Exact

variable {tail : ErrorTail}

/-! ## Modes that differ in the code rate -/

section Modes

variable {α : Type}

/-- Whether constellation and code rate of a mode have a spectrum. -/
def WifiMode.Listed (mode : WifiMode α) : Prop :=
  ∃ spectrum, (mode.constellation, mode.codeRate, spectrum) ∈ DistanceSpectrum.table

/-- Two modes of one class and constellation, the first of which has the lower code rate. -/
structure WifiMode.LowerRate (first second : WifiMode α) : Prop where
  modulation_eq : second.modulation = first.modulation
  constellation_eq : second.constellation = first.constellation
  below : first.codeRate.Below second.codeRate
  listed_first : first.Listed
  listed_second : second.Listed

theorem WifiMode.LowerRate.coded_iff {first second : WifiMode α}
    (lower : first.LowerRate second) :
    second.isCodedOfdm ↔ first.isCodedOfdm := by
  rw [isCodedOfdm, isCodedOfdm, lower.modulation_eq]

end Modes

theorem survivalShare_le_of_below
    {size : Int} {rate rate' : CodeRate} {spectrum spectrum' : DistanceSpectrum}
    (listed : (size, rate, spectrum) ∈ DistanceSpectrum.table)
    (listed' : (size, rate', spectrum') ∈ DistanceSpectrum.table)
    (below : rate.Below rate') (energy : ENNReal) (bits : ℕ) :
    survivalShare tail size spectrum' energy bits ≤
      survivalShare tail size spectrum energy bits := by
  have member := DistanceSpectrum.constellation_of_mem_table listed
  exact survivalShare_le_of_eventMass_le listed'
    (eventMass_le_of_below listed listed' below
      (errorShare_nonneg member tail energy) (errorShare_le_half member tail energy)) bits

section LowerRate

variable {first second : WifiMode (Exact tail)} (lower : first.LowerRate second)
  {tx tx' : Transmission (Exact tail)} {rate : Except (Fault (Exact tail)) (Exact tail)}
  {chunk : Chunk (Exact tail)}
include lower

/-- At one rate on one width the two modes rest on the same energy. -/
theorem restsOn_iff_of_lowerRate (sameWidth : tx'.width = tx.width) (bits : ℕ) (energy : ENNReal) :
    (∃ spectrum, RestsOn tx' rate { chunk with mode := second } spectrum bits energy) ↔
      ∃ spectrum, RestsOn tx rate { chunk with mode := first } spectrum bits energy := by
  have sameEnergy : energyAt tx' rate chunk.snr = energyAt tx rate chunk.snr := by
    rw [energyAt, energyAt, sameWidth]
  constructor
  · rintro ⟨_, coded, _, bits_eq, energy_eq⟩
    obtain ⟨spectrum, listed⟩ := lower.listed_first
    exact ⟨spectrum, lower.coded_iff.mp coded, listed, bits_eq, sameEnergy.symm.trans energy_eq⟩
  · rintro ⟨_, coded, _, bits_eq, energy_eq⟩
    obtain ⟨spectrum, listed⟩ := lower.listed_second
    exact ⟨spectrum, lower.coded_iff.mpr coded, listed, bits_eq, sameEnergy.trans energy_eq⟩

private theorem exists_modeled_iff_of_lowerRate (sameWidth : tx'.width = tx.width) :
    (∃ probability, estimateWith tx' rate { chunk with mode := second } =
        .ok (.modeled probability)) ↔
      ∃ probability, estimateWith tx rate { chunk with mode := first } =
        .ok (.modeled probability) := by
  have sameRests := @restsOn_iff_of_lowerRate tail first second lower tx tx' rate chunk sameWidth
  constructor
  · rintro ⟨_, answered⟩
    obtain ⟨_, bits, energy, rests, _⟩ := estimateWith_eq_modeled_iff.mp answered
    obtain ⟨spectrum, rests'⟩ := (sameRests bits energy).mp ⟨_, rests⟩
    exact ⟨_, estimateWith_eq_modeled_iff.mpr ⟨spectrum, bits, energy, rests', rfl⟩⟩
  · rintro ⟨_, answered⟩
    obtain ⟨_, bits, energy, rests, _⟩ := estimateWith_eq_modeled_iff.mp answered
    obtain ⟨spectrum, rests'⟩ := (sameRests bits energy).mpr ⟨_, rests⟩
    exact ⟨_, estimateWith_eq_modeled_iff.mpr ⟨spectrum, bits, energy, rests', rfl⟩⟩

private theorem probability_le_of_lowerRate (sameWidth : tx'.width = tx.width)
    {probability probability' : Exact tail}
    (answered : estimateWith tx rate { chunk with mode := first } = .ok (.modeled probability))
    (answered' : estimateWith tx' rate { chunk with mode := second } =
      .ok (.modeled probability')) :
    probability' ≤ probability := by
  obtain ⟨spectrum, bits, energy, rests, rfl⟩ := estimateWith_eq_modeled_iff.mp answered
  obtain ⟨spectrum', bits', energy', rests', rfl⟩ := estimateWith_eq_modeled_iff.mp answered'
  obtain rfl : bits = bits' :=
    natural_eq_of_integer_eq (rests.bits_eq.symm.trans rests'.bits_eq)
  obtain rfl : energy = energy' := by
    have known := rests'.energy_eq
    rw [energyAt, sameWidth] at known
    exact extend_injective (Except.ok.inj (rests.energy_eq.symm.trans known))
  have listed' := rests'.listed
  dsimp only at listed' ⊢
  rw [lower.constellation_eq] at listed' ⊢
  rw [finite_le_finite]
  exact survivalShare_le_of_below rests.listed listed' lower.below energy bits

end LowerRate

/-! ## Single-user transmissions -/

/-- A class takes a width, a number of streams and a guard interval. -/
structure ModulationClass.Accepts
    (tail : ErrorTail) (modulation : ModulationClass) (width : ℝ) (streams guardInterval : Int) :
    Prop where
  wide : 0 < width
  takes : modulation.isTabled → TakesWidth modulation (finite width : Exact tail)
  some : 1 ≤ streams
  lasting : modulation.isTabled → 0 < symbolNanoseconds modulation guardInterval

theorem exists_probability_of_accepts
    {mode : WifiMode (Exact tail)} (coded : mode.isCodedOfdm) (listed : mode.Listed)
    (own : mode.sameAs mode)
    {width : ℝ} {streams guardInterval : Int}
    (accepts : mode.modulation.Accepts tail width streams guardInterval)
    {tx : Transmission (Exact tail)}
    (made : Transmission.singleUser mode (finite width) streams guardInterval = .ok tx)
    (settings : Settings (Exact tail)) {chunk : Chunk (Exact tail)} (valid : ValidQuestion chunk) :
    ∃ probability : ℝ,
      estimate tx settings { chunk with mode := mode } = .ok (.modeled (finite probability)) := by
  obtain ⟨wide, rfl⟩ := Transmission.eq_single_of_singleUser made
  obtain ⟨spectrum, listed⟩ := listed
  have points := two_le_constellation (DistanceSpectrum.constellation_of_mem_table listed)
  obtain ⟨rate, positive, sent⟩ := WifiMode.phyRate_of_lasting accepts.wide points accepts.some
    coded accepts.takes accepts.lasting
  rw [← Transmission.effectiveRate_single wide own chunk.station settings] at sent
  have validMode : ValidQuestion { chunk with mode := mode } := valid
  obtain ⟨probability, _, _, answered⟩ :=
    exists_probability_of_rate validMode coded listed rfl positive sent
  exact ⟨probability, answered⟩

/-- Two modes that differ in the code rate alone, each in its single-user transmission, are
answered alike, and the one with the lower code rate survives with no smaller probability. Both
are answered when their class takes the width, the streams and the guard interval. -/
theorem estimate_of_lowerRate
    {first second : WifiMode (Exact tail)} (lower : first.LowerRate second)
    (coded : first.isCodedOfdm)
    (own : first.sameAs first) (own' : second.sameAs second)
    {width : Exact tail} {streams guardInterval : Int} {tx tx' : Transmission (Exact tail)}
    (made : Transmission.singleUser first width streams guardInterval = .ok tx)
    (made' : Transmission.singleUser second width streams guardInterval = .ok tx')
    (settings : Settings (Exact tail)) (chunk : Chunk (Exact tail)) :
    ((∃ probability, estimate tx settings { chunk with mode := first } =
        .ok (.modeled probability)) ↔
      ∃ probability, estimate tx' settings { chunk with mode := second } =
        .ok (.modeled probability)) ∧
    (∀ probability probability',
      estimate tx settings { chunk with mode := first } = .ok (.modeled probability) →
        estimate tx' settings { chunk with mode := second } = .ok (.modeled probability') →
          probability' ≤ probability) ∧
    (∀ w : ℝ, width = finite w → first.modulation.Accepts tail w streams guardInterval →
      ValidQuestion chunk →
        ∃ probability, estimate tx settings { chunk with mode := first } =
          .ok (.modeled probability)) := by
  obtain ⟨wide, rfl⟩ := Transmission.eq_single_of_singleUser made
  obtain ⟨wide', rfl⟩ := Transmission.eq_single_of_singleUser made'
  have sameRate : second.phyRate width streams guardInterval =
      first.phyRate width streams guardInterval :=
    WifiMode.phyRate_congr coded lower.modulation_eq lower.constellation_eq _ _ _
  simp only [estimate, Transmission.effectiveRate_single wide own,
    Transmission.effectiveRate_single wide' own', sameRate]
  refine ⟨?_, ?_, ?_⟩
  · exact (exists_modeled_iff_of_lowerRate lower rfl).symm
  · intro probability probability' answered answered'
    exact probability_le_of_lowerRate lower rfl answered answered'
  · rintro w rfl accepts valid
    obtain ⟨probability, answered⟩ :=
      exists_probability_of_accepts coded lower.listed_first own accepts made settings valid
    rw [estimate, Transmission.effectiveRate_single wide own] at answered
    exact ⟨finite probability, answered⟩

/-! ## A sample -/

section Sample

variable (tail) in
/-- A plain OFDM mode on two points. -/
noncomputable def bpskMode (name : String) (codeRate : CodeRate) : WifiMode (Exact tail) where
  name := name
  modulation := .ofdm
  constellation := 2
  codeRate := codeRate
  fixedRate := finite 0

theorem bpskMode_lowerRate :
    (bpskMode tail "OfdmRate6Mbps" .half).LowerRate
      (bpskMode tail "OfdmRate9Mbps" .threeQuarters) where
  modulation_eq := rfl
  constellation_eq := rfl
  below := by
    change CodeRate.half.Below CodeRate.threeQuarters
    decide
  listed_first := ⟨.half, by
    change (2, CodeRate.half, DistanceSpectrum.half) ∈ DistanceSpectrum.table
    decide⟩
  listed_second := ⟨.threeQuarters, by
    change (2, CodeRate.threeQuarters, DistanceSpectrum.threeQuarters) ∈ DistanceSpectrum.table
    decide⟩

theorem ofdm_accepts_twenty : ModulationClass.ofdm.Accepts tail 20 1 800 where
  wide := by norm_num
  takes := fun tabled => absurd tabled Bool.false_ne_true
  some := le_rfl
  lasting := fun tabled => absurd tabled Bool.false_ne_true

end Sample

/-- On 20 MHz the two plain modes on two points are answered, and in this order. -/
theorem bpskMode_estimate_order :
    ∃ tx tx' : Transmission (Exact gaussianTail),
      Transmission.singleUser (bpskMode gaussianTail "OfdmRate6Mbps" .half) (finite 20) =
        .ok tx ∧
      Transmission.singleUser (bpskMode gaussianTail "OfdmRate9Mbps" .threeQuarters)
        (finite 20) = .ok tx' ∧
      ∃ probability probability',
        estimate tx .standard
            { htChunk (finite 1) 8 with mode := bpskMode gaussianTail "OfdmRate6Mbps" .half } =
          .ok (.modeled probability) ∧
        estimate tx' .standard
            { htChunk (finite 1) 8 with
              mode := bpskMode gaussianTail "OfdmRate9Mbps" .threeQuarters } =
          .ok (.modeled probability') ∧
        probability' ≤ probability := by
  have wide : ¬(finite 20 : Exact gaussianTail) ≤ 0.0 := WifiMode.not_finite_nonpos (by norm_num)
  have made := Transmission.singleUser_of_wide
    (bpskMode gaussianTail "OfdmRate6Mbps" .half) 1 800 wide
  have made' := Transmission.singleUser_of_wide
    (bpskMode gaussianTail "OfdmRate9Mbps" .threeQuarters) 1 800 wide
  obtain ⟨alike, ordered, answers⟩ := estimate_of_lowerRate bpskMode_lowerRate rfl
    (by simp [WifiMode.sameAs, bpskMode])
    (by simp [WifiMode.sameAs, bpskMode]) made made' .standard (htChunk (finite 1) 8)
  have valid : ValidQuestion (htChunk (finite 1 : Exact gaussianTail) 8) :=
    htChunk_valid zero_le_one 8
  obtain ⟨probability, answered⟩ := answers 20 rfl ofdm_accepts_twenty valid
  obtain ⟨probability', answered'⟩ := alike.mp ⟨probability, answered⟩
  exact ⟨_, _, made, made', probability, probability', answered, answered',
    ordered probability probability' answered answered'⟩

end WifiLink
