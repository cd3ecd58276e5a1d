import WifiLink.Code.Survival
import WifiLink.Proofs.Code.PairwiseComplement

/-!
# Survival in exact numbers

For the spectra in use the bound on error events is a number between zero and one that grows with
the bit error rate up to one half, and a chunk of `n` bits survives with the `n`-th power of what
the bound leaves.
-/

namespace WifiLink

open Exact

variable {tail : ErrorTail}

namespace DistanceSpectrum

/-- Distances at which errors are counted and weights that count them. -/
structure Regular (spectrum : DistanceSpectrum) : Prop where
  two_le_distance : 2 ≤ spectrum.freeDistance
  distance_lt : spectrum.freeDistance < 2 ^ 62
  weight_nonneg : 0 ≤ spectrum.freeWeight
  next_nonneg : 0 ≤ spectrum.nextWeight.getD 0

instance (spectrum : DistanceSpectrum) : Decidable spectrum.Regular :=
  decidable_of_iff
    (2 ≤ spectrum.freeDistance ∧ spectrum.freeDistance < 2 ^ 62 ∧ 0 ≤ spectrum.freeWeight ∧
      0 ≤ spectrum.nextWeight.getD 0)
    ⟨fun ⟨low, high, first, next⟩ => ⟨low, high, first, next⟩,
      fun ⟨low, high, first, next⟩ => ⟨low, high, first, next⟩⟩

theorem regular_of_mem_table {entry : Int × CodeRate × DistanceSpectrum}
    (member : entry ∈ table) :
    entry.2.2.Regular := by
  revert entry
  decide

/-- No two entries share constellation and code rate. -/
theorem find?_of_mem_table {entry : Int × CodeRate × DistanceSpectrum}
    (member : entry ∈ table) :
    table.find? (fun other => other.1 == entry.1 && other.2.1 == entry.2.1) = some entry := by
  revert entry
  decide

section Lookup

variable {α : Type} {constellation : Int} {rate : CodeRate}

theorem lookup_eq_ok_iff {spectrum : DistanceSpectrum} :
    (lookup constellation (.rate rate) : Except (Fault α) DistanceSpectrum) = .ok spectrum ↔
      (constellation, rate, spectrum) ∈ table := by
  constructor
  · intro found
    unfold lookup at found
    dsimp only at found
    split at found
    · next entry equality =>
      have keys := List.find?_some equality
      rw [Bool.and_eq_true, beq_iff_eq, beq_iff_eq] at keys
      obtain ⟨rfl, rfl⟩ := keys
      obtain rfl : entry.2.2 = spectrum := Except.ok.inj found
      exact List.mem_of_find?_eq_some equality
    · cases found
  · intro member
    rw [lookup, find?_of_mem_table member]

/-- A constellation and a code rate that stand in no entry are refused. -/
theorem refused_lookup
    (absent : ∀ spectrum, (constellation, rate, spectrum) ∉ table) :
    Refused (lookup constellation (.rate rate) : Except (Fault α) DistanceSpectrum) := by
  cases found : (lookup constellation (.rate rate) : Except (Fault α) DistanceSpectrum) with
  | ok spectrum => exact absurd (lookup_eq_ok_iff.mp found) (absent spectrum)
  | error fault =>
      unfold lookup at found
      dsimp only at found
      split at found
      · cases found
      · cases found
        exact refused_error rfl

end Lookup

end DistanceSpectrum

/-- The union bound of a spectrum at a bit error rate. -/
noncomputable def eventMass (spectrum : DistanceSpectrum) (errorRate : ℝ) : ℝ :=
  min
    (spectrum.freeWeight * pairwiseMass spectrum.freeDistance.toNat errorRate +
      spectrum.nextWeight.getD 0 * pairwiseMass (spectrum.freeDistance.toNat + 1) errorRate)
    1

theorem eventMass_le_one (spectrum : DistanceSpectrum) (errorRate : ℝ) :
    eventMass spectrum errorRate ≤ 1 :=
  min_le_right _ _

theorem eventMass_nonneg_of_weights
    {spectrum : DistanceSpectrum} (weight : 0 ≤ spectrum.freeWeight)
    (next : 0 ≤ spectrum.nextWeight.getD 0)
    {errorRate : ℝ} (nonneg : 0 ≤ errorRate) (le_one : errorRate ≤ 1) :
    0 ≤ eventMass spectrum errorRate := by
  have first := pairwiseMass_nonneg spectrum.freeDistance.toNat nonneg le_one
  have following := pairwiseMass_nonneg (spectrum.freeDistance.toNat + 1) nonneg le_one
  have firstWeight : (0 : ℝ) ≤ spectrum.freeWeight := by
    exact_mod_cast weight
  have nextWeight : (0 : ℝ) ≤ (spectrum.nextWeight.getD 0 : Int) := by
    exact_mod_cast next
  exact le_min (by positivity) zero_le_one

/-- Where no bit is wrong there is no error event, and where all are wrong none is counted. -/
theorem eventMass_of_certain
    {spectrum : DistanceSpectrum} (positive : 1 ≤ spectrum.freeDistance)
    {errorRate : ℝ} (certain : errorRate = 0 ∨ errorRate = 1) :
    eventMass spectrum errorRate = 0 := by
  have nothing {d : ℕ} (someBits : 0 < d) : pairwiseMass d errorRate = 0 := by
    rcases certain with rfl | rfl
    · exact pairwiseMass_zero someBits
    · exact pairwiseMass_one someBits
  rw [eventMass, nothing (by omega), nothing (Nat.succ_pos _), mul_zero, mul_zero, add_zero,
    min_eq_left zero_le_one]

section EventMass

variable {spectrum : DistanceSpectrum} (regular : spectrum.Regular)
include regular

theorem eventMass_nonneg
    {errorRate : ℝ} (nonneg : 0 ≤ errorRate) (le_one : errorRate ≤ 1) :
    0 ≤ eventMass spectrum errorRate :=
  eventMass_nonneg_of_weights regular.weight_nonneg regular.next_nonneg nonneg le_one

/-- Without bit errors there is no error event. -/
theorem eventMass_zero : eventMass spectrum 0 = 0 :=
  eventMass_of_certain (one_le_two.trans regular.two_le_distance) (.inl rfl)

theorem eventMass_monotoneOn :
    MonotoneOn (eventMass spectrum) (Set.Icc 0 (1 / 2)) := by
  intro p pMember q qMember below
  have positive : 0 < spectrum.freeDistance.toNat := by
    have := regular.two_le_distance
    omega
  have firstWeight : (0 : ℝ) ≤ spectrum.freeWeight := by
    exact_mod_cast regular.weight_nonneg
  have nextWeight : (0 : ℝ) ≤ (spectrum.nextWeight.getD 0 : Int) := by
    exact_mod_cast regular.next_nonneg
  have first := pairwiseMass_monotoneOn positive pMember qMember below
  have next := pairwiseMass_monotoneOn (Nat.succ_pos spectrum.freeDistance.toNat)
    pMember qMember below
  exact min_le_min_right 1
    (add_le_add (mul_le_mul_of_nonneg_left first firstWeight)
      (mul_le_mul_of_nonneg_left next nextWeight))

end EventMass

/-! ## The calculated bound -/

/-- A term of the bound is a weight times a pairwise error probability. At distance one both are
nothing. -/
theorem weightedPairwise_finite
    {distance : ℕ} (someBits : 0 < distance) (weight : Int) {errorRate : ℝ}
    (countable : distance < 2 ^ 64 ∨ errorRate = 0 ∨ errorRate = 1)
    (nonneg : 0 ≤ errorRate) (le_one : errorRate ≤ 1) :
    weightedPairwise (finite errorRate : Exact tail) weight distance =
      .ok (finite (weight * pairwiseMass distance errorRate)) := by
  rw [weightedPairwise, pairwiseError_finite someBits countable nonneg le_one, ok_bind]
  by_cases one : distance = 1
  · rw [if_pos (by omega), one]
    norm_num [pairwiseMass, partialTail]
    rfl
  · rw [if_neg (by omega)]
    simp

namespace DistanceSpectrum

/-- The farthest distance that the bound has a term for. -/
def lastDistance (spectrum : DistanceSpectrum) : Int :=
  if spectrum.twoTerm then spectrum.freeDistance + 1 else spectrum.freeDistance

/-- Distances with bits to count, and no more combinations of them than can be counted. -/
structure CountableAt (spectrum : DistanceSpectrum) (errorRate : ℝ) : Prop where
  one_le_distance : 1 ≤ spectrum.freeDistance
  inReach : spectrum.lastDistance < 2 ^ 64 ∨ errorRate = 0 ∨ errorRate = 1

theorem freeDistance_le_lastDistance (spectrum : DistanceSpectrum) :
    spectrum.freeDistance ≤ spectrum.lastDistance := by
  unfold lastDistance
  split_ifs <;> omega

theorem lastDistance_le (spectrum : DistanceSpectrum) :
    spectrum.lastDistance ≤ spectrum.freeDistance + 1 := by
  unfold lastDistance
  split_ifs <;> omega

theorem Regular.countableAt {spectrum : DistanceSpectrum} (regular : spectrum.Regular)
    (errorRate : ℝ) : spectrum.CountableAt errorRate := by
  have low := regular.two_le_distance
  have high := regular.distance_lt
  have last := spectrum.lastDistance_le
  exact ⟨by omega, .inl (by omega)⟩

end DistanceSpectrum

section Countable

variable {spectrum : DistanceSpectrum} {errorRate : ℝ} (counts : spectrum.CountableAt errorRate)
  (nonneg : 0 ≤ errorRate) (le_one : errorRate ≤ 1)
include counts nonneg le_one

theorem errorEventBound_finite :
    errorEventBound (finite errorRate : Exact tail) spectrum =
      .ok (finite (eventMass spectrum errorRate)) := by
  have free := spectrum.freeDistance_le_lastDistance
  obtain ⟨distance, weight, next⟩ := spectrum
  obtain ⟨someBits, inReach⟩ := counts
  dsimp only at free someBits
  obtain ⟨d, rfl⟩ := Int.eq_ofNat_of_zero_le (show 0 ≤ distance by omega)
  rw [errorEventBound,
    weightedPairwise_finite (by omega) weight (inReach.imp_left (by omega)) nonneg le_one,
    ok_bind, one_eq_finite]
  cases next with
  | none =>
      simp [eventMass]
      rfl
  | some nextWeight =>
      have following : (d : Int) + 1 = (d + 1 : ℕ) := rfl
      have last : DistanceSpectrum.lastDistance ⟨d, weight, some nextWeight⟩ = d + 1 := rfl
      have near : d + 1 < 2 ^ 64 ∨ errorRate = 0 ∨ errorRate = 1 := inReach.imp_left (by omega)
      dsimp only
      rw [following, weightedPairwise_finite (by omega) nextWeight near nonneg le_one, ok_bind]
      simp [eventMass]
      rfl

/-- Without bit errors the bound is zero, so the early answer is no exception. -/
theorem chunkSurvival_of_countable (bits : Int) :
    chunkSurvival (finite errorRate : Exact tail) bits spectrum =
      liftM (Scalar.power (finite (1 - eventMass spectrum errorRate) : Exact tail) bits) := by
  rw [chunkSurvival, one_eq_finite]
  rcases eq_or_lt_of_le nonneg with rfl | positive
  · rw [if_pos (by norm_num), eventMass_of_certain counts.one_le_distance (.inl rfl), sub_zero,
      power_finite _ (Or.inl one_ne_zero), one_zpow, lift_ok]
  · rw [if_neg (by norm_num; exact positive.ne'), errorEventBound_finite counts nonneg le_one,
      ok_bind, finite_sub_finite]

end Countable

/-- Only zero is taken for it. -/
theorem not_same_zero_of_not_probability {errorRate : Exact tail}
    (outside : ¬(0.0 ≤ errorRate ∧ errorRate ≤ 1.0)) :
    Scalar.same errorRate 0.0 = false := by
  cases errorRate with
  | finite x =>
      rw [ofScientific_eq, same_finite, decide_eq_false_iff_not]
      intro zero
      exact outside (by norm_num [zero])
  | infinite negative =>
      cases negative
      · exact (Bool.and_eq_false_iff).mpr (Or.inl (decide_eq_false Bool.false_ne_true))
      · exact (Bool.and_eq_false_iff).mpr (Or.inr (decide_eq_false Bool.false_ne_true.symm))
  | notANumber => exact (Bool.and_eq_false_iff).mpr (Or.inl (decide_eq_false id))

section Chunk

variable {spectrum : DistanceSpectrum} (regular : spectrum.Regular)
include regular

theorem chunkSurvival_finite
    {errorRate : ℝ} (nonneg : 0 ≤ errorRate) (le_one : errorRate ≤ 1) (bits : ℕ) :
    chunkSurvival (finite errorRate : Exact tail) bits spectrum =
      .ok (finite ((1 - eventMass spectrum errorRate) ^ bits)) := by
  rw [chunkSurvival_of_countable (regular.countableAt errorRate) nonneg le_one,
    power_finite _ (Or.inr (Int.natCast_nonneg bits)), zpow_natCast, lift_ok]

/-- What is no probability has no survival. -/
theorem chunkSurvival_of_not_probability {errorRate : Exact tail}
    (outside : ¬(0.0 ≤ errorRate ∧ errorRate ≤ 1.0)) (bits : Int) :
    chunkSurvival errorRate bits spectrum =
      .error (.probabilityOutOfRange errorRate) := by
  rw [chunkSurvival, not_same_zero_of_not_probability outside, if_neg Bool.false_ne_true,
    errorEventBound, weightedPairwise,
    pairwiseError_of_not_probability outside regular.two_le_distance]
  rfl

end Chunk

end WifiLink
