import WifiLink.Proofs.Code.Majority
import WifiLink.Proofs.Code.Survival

/-!
# The order of code rates

A lower code rate has the smaller union bound at every bit error rate up to one half. With two
terms each rate's sum is below that of the next one, since its paths are farther apart. With one
term the sums cross, but only where both of them exceed one.
-/

namespace WifiLink

/-- A code rate adds more redundancy than another one. -/
def CodeRate.Below (first second : CodeRate) : Prop :=
  first.ratio.1 * second.ratio.2 < second.ratio.1 * first.ratio.2

instance (first second : CodeRate) : Decidable (first.Below second) :=
  inferInstanceAs (Decidable (_ < _))

/-! ## The bounds of the spectra in use -/

section Bounds

variable (p : ℝ)

theorem eventMass_half : eventMass .half p = min (11 * pairwiseMass 10 p) 1 := by
  simp [eventMass, DistanceSpectrum.half]

theorem eventMass_threeQuarters : eventMass .threeQuarters p = min (8 * pairwiseMass 5 p) 1 := by
  simp [eventMass, DistanceSpectrum.threeQuarters]

theorem eventMass_twoTermHalf : eventMass .twoTermHalf p = eventMass .half p := by
  simp [eventMass, DistanceSpectrum.half, DistanceSpectrum.twoTermHalf]

theorem eventMass_twoTermTwoThirds :
    eventMass .twoTermTwoThirds p = min (pairwiseMass 6 p + 16 * pairwiseMass 7 p) 1 := by
  simp [eventMass, DistanceSpectrum.twoTermTwoThirds]

theorem eventMass_twoTermThreeQuarters :
    eventMass .twoTermThreeQuarters p =
      min (8 * pairwiseMass 5 p + 31 * pairwiseMass 6 p) 1 := by
  simp [eventMass, DistanceSpectrum.twoTermThreeQuarters]

theorem eventMass_twoTermFiveSixths :
    eventMass .twoTermFiveSixths p =
      min (14 * pairwiseMass 4 p + 69 * pairwiseMass 5 p) 1 := by
  simp [eventMass, DistanceSpectrum.twoTermFiveSixths]

theorem pairwiseMass_five :
    pairwiseMass 5 p = 10 * p ^ 3 * (1 - p) ^ 2 + 5 * p ^ 4 * (1 - p) := by
  simp only [pairwiseMass, partialTail, binomialMass, Finset.sum_Ico_eq_sum_range,
    Finset.sum_range_succ, Finset.sum_range_zero]
  norm_num [Nat.choose]

theorem pairwiseMass_ten :
    pairwiseMass 10 p =
      p ^ 5 * (1 - p) * (126 - 294 * p + 246 * p ^ 2 - 69 * p ^ 3 + p ^ 4) := by
  simp only [pairwiseMass, partialTail, binomialMass, Finset.sum_Ico_eq_sum_range,
    Finset.sum_range_succ, Finset.sum_range_zero]
  norm_num [Nat.choose]
  ring

end Bounds

/-! ## One rate below another -/

section Order

variable {p : ℝ} (nonneg : 0 ≤ p) (le_half : p ≤ 1 / 2)
include nonneg le_half

theorem eventMass_half_le_twoThirds : eventMass .half p ≤ eventMass .twoTermTwoThirds p := by
  have farther := pairwiseMass_farther_le 6 10 (by decide) nonneg le_half
  have six := pairwiseMass_nonneg 6 nonneg (by linarith)
  have seven := pairwiseMass_nonneg 7 nonneg (by linarith)
  rw [eventMass_half, eventMass_twoTermTwoThirds]
  apply min_le_min_right
  linarith

theorem eventMass_twoThirds_le_threeQuarters :
    eventMass .twoTermTwoThirds p ≤ eventMass .twoTermThreeQuarters p := by
  have farther := pairwiseMass_farther_le 5 7 (by decide) nonneg le_half
  have five := pairwiseMass_nonneg 5 nonneg (by linarith)
  have six := pairwiseMass_nonneg 6 nonneg (by linarith)
  rw [eventMass_twoTermTwoThirds, eventMass_twoTermThreeQuarters]
  apply min_le_min_right
  linarith

theorem eventMass_threeQuarters_le_fiveSixths :
    eventMass .twoTermThreeQuarters p ≤ eventMass .twoTermFiveSixths p := by
  have farther := pairwiseMass_farther_le 4 6 (by decide) nonneg le_half
  have four := pairwiseMass_nonneg 4 nonneg (by linarith)
  have five := pairwiseMass_nonneg 5 nonneg (by linarith)
  rw [eventMass_twoTermThreeQuarters, eventMass_twoTermFiveSixths]
  apply min_le_min_right
  linarith

omit le_half in
/-- The two single-term sums cross above three tenths. -/
theorem half_le_threeQuarters_of_small (small : p ≤ 3 / 10) :
    11 * pairwiseMass 10 p ≤ 8 * pairwiseMass 5 p := by
  have miss : 0 ≤ 1 - p := by linarith
  have factor :
      11 * p ^ 2 * (126 - 294 * p + 246 * p ^ 2 - 69 * p ^ 3 + p ^ 4) ≤ 40 * (2 - p) := by
    nlinarith [mul_nonneg nonneg (sub_nonneg.mpr small), pow_nonneg nonneg 2,
      pow_nonneg nonneg 3, pow_nonneg nonneg 4]
  calc
    11 * pairwiseMass 10 p = p ^ 3 * (1 - p) *
        (11 * p ^ 2 * (126 - 294 * p + 246 * p ^ 2 - 69 * p ^ 3 + p ^ 4)) := by
      rw [pairwiseMass_ten]
      ring
    _ ≤ p ^ 3 * (1 - p) * (40 * (2 - p)) := by
      gcongr
    _ = 8 * pairwiseMass 5 p := by
      rw [pairwiseMass_five]
      ring

/-- From three tenths on an error event is taken for certain at the higher of the two rates. -/
theorem one_le_threeQuarters_of_large (large : 3 / 10 ≤ p) : 1 ≤ 8 * pairwiseMass 5 p := by
  have grows := pairwiseMass_monotoneOn (d := 5) (by decide)
    (by norm_num : (3 / 10 : ℝ) ∈ Set.Icc 0 (1 / 2)) ⟨nonneg, le_half⟩ large
  have value : 1 ≤ 8 * pairwiseMass 5 (3 / 10) := by
    rw [pairwiseMass_five]
    norm_num
  linarith

theorem eventMass_half_le_threeQuarters : eventMass .half p ≤ eventMass .threeQuarters p := by
  rw [eventMass_threeQuarters]
  rcases le_total p (3 / 10) with small | large
  · rw [eventMass_half]
    exact min_le_min_right 1 (half_le_threeQuarters_of_small nonneg small)
  · rw [min_eq_right (one_le_threeQuarters_of_large nonneg le_half large)]
    exact eventMass_le_one _ p

end Order

namespace DistanceSpectrum

/-- What a lower and a higher code rate of one constellation can have for spectra. -/
def ratePairs : List (DistanceSpectrum × DistanceSpectrum) :=
  [ (half, threeQuarters),
    (twoTermHalf, twoTermThreeQuarters),
    (twoTermTwoThirds, twoTermThreeQuarters),
    (twoTermTwoThirds, twoTermFiveSixths),
    (twoTermThreeQuarters, twoTermFiveSixths) ]

theorem mem_ratePairs_of_below
    {entry other : Int × CodeRate × DistanceSpectrum}
    (member : entry ∈ table) (otherMember : other ∈ table)
    (sameSize : entry.1 = other.1) (below : entry.2.1.Below other.2.1) :
    (entry.2.2, other.2.2) ∈ ratePairs := by
  have all : ∀ entry ∈ table, ∀ other ∈ table, entry.1 = other.1 →
      entry.2.1.Below other.2.1 → (entry.2.2, other.2.2) ∈ ratePairs := by
    decide
  exact all entry member other otherMember sameSize below

end DistanceSpectrum

/-- The lower code rate of a constellation has the smaller bound. -/
theorem eventMass_le_of_below
    {size : Int} {first second : CodeRate} {spectrum spectrum' : DistanceSpectrum}
    (listed : (size, first, spectrum) ∈ DistanceSpectrum.table)
    (listed' : (size, second, spectrum') ∈ DistanceSpectrum.table)
    (below : first.Below second) {p : ℝ} (nonneg : 0 ≤ p) (le_half : p ≤ 1 / 2) :
    eventMass spectrum p ≤ eventMass spectrum' p := by
  have pair := DistanceSpectrum.mem_ratePairs_of_below listed listed' rfl below
  have toTwoThirds := eventMass_half_le_twoThirds nonneg le_half
  have toThreeQuarters := eventMass_twoThirds_le_threeQuarters nonneg le_half
  have toFiveSixths := eventMass_threeQuarters_le_fiveSixths nonneg le_half
  simp only [DistanceSpectrum.ratePairs, List.mem_cons, List.not_mem_nil, or_false,
    Prod.mk.injEq] at pair
  rcases pair with ⟨rfl, rfl⟩ | ⟨rfl, rfl⟩ | ⟨rfl, rfl⟩ | ⟨rfl, rfl⟩ | ⟨rfl, rfl⟩
  · exact eventMass_half_le_threeQuarters nonneg le_half
  · rw [eventMass_twoTermHalf]
    exact toTwoThirds.trans toThreeQuarters
  · exact toThreeQuarters
  · exact toThreeQuarters.trans toFiveSixths
  · exact toFiveSixths

end WifiLink
