import WifiLink.Proofs.BitError.Gaussian
import WifiLink.Proofs.Code.SpectrumOrder

/-!
# The most robust code

Half of the bits on two points make the smallest union bound wherever two points have the smallest
bit error rate. In Gaussian noise they make it also where their bit error rate is greater but both
bounds are far apart, or where the other bound is one.
-/

namespace WifiLink

/-- Codes whose bound is one wherever two points have the greater bit error rate. -/
def Outlived (size : Int) (rate : CodeRate) : Prop :=
  size = 2 ∨ (rate = .threeQuarters ∧ size ≤ 64) ∨ (rate = .fiveSixths ∧ size ≤ 256)

instance (size : Int) (rate : CodeRate) : Decidable (Outlived size rate) :=
  inferInstanceAs (Decidable (_ ∨ _))

namespace DistanceSpectrum

section Table

variable {entry : Int × CodeRate × DistanceSpectrum} (member : entry ∈ table)
include member

theorem mem_of_mem_table :
    entry.2.2 ∈ [half, threeQuarters, twoTermHalf, twoTermTwoThirds, twoTermThreeQuarters,
      twoTermFiveSixths] := by
  revert entry
  decide

theorem mem_of_mem_table_sixtyFour (points : entry.1 = 64) :
    entry.2.2 ∈ [twoTermTwoThirds, twoTermThreeQuarters, twoTermFiveSixths] := by
  revert entry
  decide

theorem mem_of_mem_table_many (points : 64 < entry.1) :
    entry.2.2 ∈ [twoTermThreeQuarters, twoTermFiveSixths] := by
  revert entry
  decide

theorem cases_of_outlived (outlived : Outlived entry.1 entry.2.1) :
    entry.1 = 2 ∨
      (entry.1 ≤ 64 ∧ entry.2.2 ∈ [twoTermThreeQuarters, twoTermFiveSixths]) ∨
      (entry.1 = 256 ∧ entry.2.2 = twoTermFiveSixths) := by
  revert entry
  decide

end Table

end DistanceSpectrum

/-! ## The smallest bound -/

section Smallest

variable {size : Int} {rate : CodeRate} {spectrum : DistanceSpectrum}
  (listed : (size, rate, spectrum) ∈ DistanceSpectrum.table) {p : ℝ}
include listed

theorem eventMass_half_le_of_mem_table (nonneg : 0 ≤ p) (le_half : p ≤ 1 / 2) :
    eventMass .half p ≤ eventMass spectrum p := by
  have kind := DistanceSpectrum.mem_of_mem_table listed
  have toTwoThirds := eventMass_half_le_twoThirds nonneg le_half
  have toThreeQuarters := eventMass_twoThirds_le_threeQuarters nonneg le_half
  have toFiveSixths := eventMass_threeQuarters_le_fiveSixths nonneg le_half
  simp only [List.mem_cons, List.not_mem_nil, or_false] at kind
  rcases kind with rfl | rfl | rfl | rfl | rfl | rfl
  · exact le_rfl
  · exact eventMass_half_le_threeQuarters nonneg le_half
  · exact (eventMass_twoTermHalf p).ge
  · exact toTwoThirds
  · exact toTwoThirds.trans toThreeQuarters
  · exact (toTwoThirds.trans toThreeQuarters).trans toFiveSixths

theorem eventMass_half_le_of_le
    {p' : ℝ} (nonneg : 0 ≤ p) (fewer : p ≤ p') (le_half : p' ≤ 1 / 2) :
    eventMass .half p ≤ eventMass spectrum p' :=
  (eventMass_half_le_of_mem_table listed nonneg (fewer.trans le_half)).trans
    (eventMass_monotoneOn (DistanceSpectrum.regular_of_mem_table listed)
      ⟨nonneg, fewer.trans le_half⟩ ⟨nonneg.trans fewer, le_half⟩ fewer)

end Smallest

/-! ## Sums at some bit error rates -/

section Sums

theorem pairwiseMass_four (p : ℝ) :
    pairwiseMass 4 p = 3 * p ^ 2 * (1 - p) ^ 2 + 4 * p ^ 3 * (1 - p) := by
  simp only [pairwiseMass, partialTail, binomialMass, Finset.sum_Ico_eq_sum_range,
    Finset.sum_range_succ, Finset.sum_range_zero]
  norm_num [Nat.choose]
  ring

theorem pairwiseMass_six (p : ℝ) :
    pairwiseMass 6 p =
      10 * p ^ 3 * (1 - p) ^ 3 + 15 * p ^ 4 * (1 - p) ^ 2 + 6 * p ^ 5 * (1 - p) := by
  simp only [pairwiseMass, partialTail, binomialMass, Finset.sum_Ico_eq_sum_range,
    Finset.sum_range_succ, Finset.sum_range_zero]
  norm_num [Nat.choose]
  ring

theorem pairwiseMass_seven (p : ℝ) :
    pairwiseMass 7 p =
      35 * p ^ 4 * (1 - p) ^ 3 + 21 * p ^ 5 * (1 - p) ^ 2 + 7 * p ^ 6 * (1 - p) := by
  simp only [pairwiseMass, partialTail, binomialMass, Finset.sum_Ico_eq_sum_range,
    Finset.sum_range_succ, Finset.sum_range_zero]
  norm_num [Nat.choose]

theorem le_eventMass_of_le
    {spectrum : DistanceSpectrum} (regular : spectrum.Regular) {bound p p' : ℝ}
    (known : bound ≤ eventMass spectrum p) (nonneg : 0 ≤ p) (more : p ≤ p') (le_half : p' ≤ 1 / 2) :
    bound ≤ eventMass spectrum p' :=
  known.trans (eventMass_monotoneOn regular ⟨nonneg, more.trans le_half⟩
    ⟨nonneg.trans more, le_half⟩ more)

theorem eventMass_half_le : eventMass .half (97 / 500) ≤ 19 / 100 := by
  rw [eventMass_half, pairwiseMass_ten]
  exact (min_le_left _ _).trans (by norm_num)

theorem le_eventMass_twoThirds : 19 / 100 ≤ eventMass .twoTermTwoThirds (147 / 1000) := by
  rw [eventMass_twoTermTwoThirds, pairwiseMass_six, pairwiseMass_seven]
  norm_num

theorem le_eventMass_threeQuarters : 19 / 100 ≤ eventMass .twoTermThreeQuarters (83 / 1000) := by
  rw [eventMass_twoTermThreeQuarters, pairwiseMass_five, pairwiseMass_six]
  norm_num

theorem one_le_eventMass_threeQuarters : 1 ≤ eventMass .twoTermThreeQuarters (3 / 20) := by
  rw [eventMass_twoTermThreeQuarters, pairwiseMass_five, pairwiseMass_six]
  norm_num

theorem one_le_eventMass_fiveSixths : 1 ≤ eventMass .twoTermFiveSixths (3 / 25) := by
  rw [eventMass_twoTermFiveSixths, pairwiseMass_four, pairwiseMass_five]
  norm_num

end Sums

/-! ## Gaussian noise -/

section Gaussian

variable {n : ℕ} {x : ℝ} {rate : CodeRate} {spectrum : DistanceSpectrum}
  (positive : 0 < n) (bounded : n ≤ 6)
  (listed : ((4 : Int) ^ n, rate, spectrum) ∈ DistanceSpectrum.table) (nonneg : 0 ≤ x)
include positive bounded listed nonneg

theorem le_eventMass_of_noisy (many : 3 ≤ n) (noisy : x ≤ 2) :
    19 / 100 ≤ eventMass spectrum (gaussianShare n x) := by
  obtain ⟨above, below⟩ := gaussianShare_mem positive bounded nonneg
  have toThreeQuarters := eventMass_twoThirds_le_threeQuarters above below
  have toFiveSixths := eventMass_threeQuarters_le_fiveSixths above below
  rcases many.eq_or_lt with rfl | more
  · have kind := DistanceSpectrum.mem_of_mem_table_sixtyFour listed (by norm_num)
    have smallest := le_eventMass_of_le (by decide) le_eventMass_twoThirds (by norm_num)
      (le_sixtyFour_of_noisy noisy) below
    simp only [List.mem_cons, List.not_mem_nil, or_false] at kind
    rcases kind with rfl | rfl | rfl
    · exact smallest
    · exact smallest.trans toThreeQuarters
    · exact (smallest.trans toThreeQuarters).trans toFiveSixths
  · have points : (64 : Int) < 4 ^ n := by
      have large : (4 : Int) ^ 4 ≤ 4 ^ n := pow_le_pow_right₀ (by norm_num) more
      omega
    have kind := DistanceSpectrum.mem_of_mem_table_many listed points
    have smallest := le_eventMass_of_le (by decide) le_eventMass_threeQuarters (by norm_num)
      (le_many_of_noisy more bounded noisy) below
    simp only [List.mem_cons, List.not_mem_nil, or_false] at kind
    rcases kind with rfl | rfl
    · exact smallest
    · exact smallest.trans toFiveSixths

/-- From three eighths on the bounds are far apart where the bit error rates are not in order. -/
theorem eventMass_half_pairShare_le (loud : 3 / 8 ≤ x) :
    eventMass .half (pairShare x) ≤ eventMass spectrum (gaussianShare n x) := by
  obtain ⟨above, below⟩ := pairShare_mem nonneg
  have le_half := (gaussianShare_mem positive bounded nonneg).2
  -- Up to sixteen points the bit error rates are in order. Of more points they are in order from
  -- two on, and below that the bounds have a number between them.
  rcases Nat.lt_or_ge n 3 with few | many
  · have fewer : pairShare x ≤ gaussianShare n x := by
      interval_cases n
      · exact pairShare_le_four loud
      · exact pairShare_le_sixteen loud
    exact eventMass_half_le_of_le listed above fewer le_half
  rcases le_total x 2 with noisy | clear
  · have most : eventMass .half (pairShare x) ≤ eventMass .half (97 / 500) :=
      eventMass_monotoneOn (by decide) ⟨above, below⟩ ⟨by norm_num, by norm_num⟩
        (pairShare_le loud)
    exact (most.trans eventMass_half_le).trans
      (le_eventMass_of_noisy positive bounded listed nonneg many noisy)
  · exact eventMass_half_le_of_le listed above (pairShare_le_many many bounded clear) le_half

/-- Up to three eighths the bounds of the outlived codes are one. -/
theorem one_le_eventMass_of_drowned
    (drowned : x ≤ 3 / 8) (outlived : Outlived (4 ^ n) rate) :
    1 ≤ eventMass spectrum (gaussianShare n x) := by
  obtain ⟨above, below⟩ := gaussianShare_mem positive bounded nonneg
  have toFiveSixths := eventMass_threeQuarters_le_fiveSixths above below
  rcases DistanceSpectrum.cases_of_outlived listed outlived with two | ⟨few, kind⟩ | ⟨some, rfl⟩
  · have large : (4 : Int) ^ 1 ≤ 4 ^ n := pow_le_pow_right₀ (by norm_num) positive
    omega
  · have atMostThree : n ≤ 3 := by
      by_contra more
      have large : (4 : Int) ^ 4 ≤ 4 ^ n := pow_le_pow_right₀ (by norm_num) (not_le.mp more)
      omega
    have smallest := le_eventMass_of_le (by decide) one_le_eventMass_threeQuarters (by norm_num)
      (le_few_of_drowned positive atMostThree drowned) below
    simp only [List.mem_cons, List.not_mem_nil, or_false] at kind
    rcases kind with rfl | rfl
    · exact smallest
    · exact smallest.trans toFiveSixths
  · obtain rfl : n = 4 :=
      pow_right_injective₀ (by norm_num : (0 : Int) < 4) (by norm_num) (some.trans (by norm_num))
    exact le_eventMass_of_le (by decide) one_le_eventMass_fiveSixths (by norm_num)
      (le_twoHundredFiftySix_of_drowned drowned) below

end Gaussian

end WifiLink
