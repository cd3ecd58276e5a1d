import WifiLink.Proofs.BitError
import WifiLink.Proofs.Code.Survival

/-!
# Where a survival is a probability

Weights, distances and the count of bits are taken as they come. A bound below zero or a count
below zero turns the power of what the bound leaves around: it is a probability just where the two
do not have opposite signs. What the pairwise errors refuse, or cannot count, comes before that.
-/

namespace WifiLink

open Exact

variable {tail : ErrorTail}

/-- The question is turned down, or its answer is a number between zero and one. -/
def AnswersProbability (answer : Except (Fault (Exact tail)) (Exact tail)) : Prop :=
  Refused answer ∨ ∃ share : ℝ, answer = .ok (finite share) ∧ 0 ≤ share ∧ share ≤ 1

private theorem answersProbability_ok_iff (share : ℝ) :
    AnswersProbability (.ok (finite share) : Except (Fault (Exact tail)) (Exact tail)) ↔
      0 ≤ share ∧ share ≤ 1 := by
  constructor
  · rintro (refused | ⟨_, equality, bounds⟩)
    · exact absurd refused (not_refused_ok _)
    · cases equality
      exact bounds
  · exact fun bounds => .inr ⟨share, rfl, bounds⟩

private theorem not_answersProbability_arithmetic (cause : ArithmeticFault) :
    ¬AnswersProbability
      (.error (.arithmetic cause) : Except (Fault (Exact tail)) (Exact tail)) := by
  rintro (⟨_, equality, refuses⟩ | ⟨_, equality, _⟩)
  · cases equality
    cases refuses
  · cases equality

/-! ## Powers of what a bound leaves -/

private theorem zpow_one_sub_le_one_iff
    {mass : ℝ} (le_one : mass ≤ 1) {n : ℤ} (defined : mass ≠ 1 ∨ 0 ≤ n) :
    (1 - mass) ^ n ≤ 1 ↔ 0 ≤ n * mass := by
  rcases lt_trichotomy n 0 with negative | rfl | positive
  · have lt_one : mass < 1 := lt_of_le_of_ne le_one (defined.resolve_right (not_le.mpr negative))
    have count : (n : ℝ) < 0 := by exact_mod_cast negative
    rcases le_or_gt mass 0 with low | high
    · exact iff_of_true (zpow_le_one_of_nonpos₀ (by linarith) negative.le)
        (mul_nonneg_of_nonpos_of_nonpos count.le low)
    · exact iff_of_false (not_le.mpr (one_lt_zpow_of_neg₀ (by linarith) (by linarith) negative))
        (not_le.mpr (mul_neg_of_neg_of_pos count high))
  · simp
  · have count : (0 : ℝ) < n := by exact_mod_cast positive
    rcases le_or_gt 0 mass with high | low
    · obtain ⟨k, rfl⟩ := Int.eq_ofNat_of_zero_le positive.le
      rw [zpow_natCast]
      exact iff_of_true (pow_le_one₀ (by linarith) (by linarith)) (mul_nonneg count.le high)
    · exact iff_of_false (not_le.mpr (one_lt_zpow₀ (by linarith) positive))
        (not_le.mpr (mul_neg_of_pos_of_neg count low))

/-- A bound of one leaves zero, which has no negative power. -/
theorem power_zero_of_neg {n : Int} (negative : n < 0) :
    Scalar.power (finite (1 - 1) : Exact tail) n = .error .zeroToNegativePower :=
  if_pos ⟨sub_self 1, negative⟩

private theorem answersProbability_power_iff {mass : ℝ} (le_one : mass ≤ 1) (bits : Int) :
    AnswersProbability
        (liftM (Scalar.power (finite (1 - mass) : Exact tail) bits) :
          Except (Fault (Exact tail)) (Exact tail)) ↔
      0 ≤ bits * mass := by
  by_cases defined : mass ≠ 1 ∨ 0 ≤ bits
  · have nonzero : 1 - mass ≠ 0 ∨ 0 ≤ bits :=
      defined.imp_left fun less => sub_ne_zero.mpr less.symm
    rw [power_finite _ nonzero, lift_ok, answersProbability_ok_iff,
      zpow_one_sub_le_one_iff le_one defined]
    exact and_iff_right (zpow_nonneg (sub_nonneg.mpr le_one) bits)
  · rw [not_or, not_not, not_le] at defined
    obtain ⟨rfl, negative⟩ := defined
    rw [power_zero_of_neg negative, lift_error, mul_one]
    exact iff_of_false (not_answersProbability_arithmetic _)
      (not_le.mpr (by exact_mod_cast negative))

/-! ## Bounds without a value -/

section Uncountable

variable {p : ℝ} (positive : 0 < p) (lt_one : p < 1)
include positive lt_one

private theorem weightedPairwise_of_uncountable
    {distance : ℕ} (uncountable : 2 ^ 64 ≤ distance) (weight : Int) :
    weightedPairwise (finite p : Exact tail) weight distance =
      .error (.arithmetic .tooManyCombinations) := by
  rw [weightedPairwise, pairwiseError_of_uncountable uncountable positive lt_one, error_bind]

/-- One of the terms has too many combinations, the last if no other. -/
theorem errorEventBound_of_uncountable
    {spectrum : DistanceSpectrum} (someBits : 1 ≤ spectrum.freeDistance)
    (uncountable : 2 ^ 64 ≤ spectrum.lastDistance) :
    errorEventBound (finite p : Exact tail) spectrum =
      .error (.arithmetic .tooManyCombinations) := by
  obtain ⟨distance, weight, next⟩ := spectrum
  dsimp only at someBits
  obtain ⟨d, rfl⟩ := Int.eq_ofNat_of_zero_le (zero_le_one.trans someBits)
  rw [errorEventBound]
  by_cases far : 2 ^ 64 ≤ d
  · rw [weightedPairwise_of_uncountable positive lt_one far, error_bind]
  · cases next with
    | none =>
        have last : DistanceSpectrum.lastDistance ⟨d, weight, none⟩ = d := rfl
        omega
    | some nextWeight =>
        have last : DistanceSpectrum.lastDistance ⟨d, weight, some nextWeight⟩ = (d + 1 : ℕ) := rfl
        dsimp only
        rw [weightedPairwise_finite (by omega) weight (.inl (by omega)) positive.le lt_one.le,
          ok_bind, show (d : Int) + 1 = (d + 1 : ℕ) from rfl,
          weightedPairwise_of_uncountable positive lt_one (by omega), error_bind]

private theorem chunkSurvival_of_uncountable
    {spectrum : DistanceSpectrum} (someBits : 1 ≤ spectrum.freeDistance)
    (uncountable : 2 ^ 64 ≤ spectrum.lastDistance) (bits : Int) :
    chunkSurvival (finite p : Exact tail) bits spectrum =
      .error (.arithmetic .tooManyCombinations) := by
  rw [chunkSurvival, if_neg (by norm_num; exact positive.ne'),
    errorEventBound_of_uncountable positive lt_one someBits uncountable, error_bind]

end Uncountable

private theorem weightedPairwise_one (errorRate : Exact tail) (weight : Int) :
    weightedPairwise errorRate weight 1 = .ok 0.0 :=
  rfl

private theorem refused_weightedPairwise_of_nonpos
    {distance : Int} (low : distance < 1) (errorRate : Exact tail) (weight : Int) :
    Refused (weightedPairwise errorRate weight distance) := by
  rw [weightedPairwise, pairwiseError, if_pos low, error_bind]
  exact refused_error rfl

section OutOfRange

variable {errorRate : Exact tail} (outside : ¬(0.0 ≤ errorRate ∧ errorRate ≤ 1.0))
include outside

private theorem refused_weightedPairwise {distance : Int} (other : distance ≠ 1) (weight : Int) :
    Refused (weightedPairwise errorRate weight distance) := by
  rcases lt_or_gt_of_ne other with low | high
  · exact refused_weightedPairwise_of_nonpos low errorRate weight
  · rw [weightedPairwise, pairwiseError_of_not_probability outside high, error_bind]
    exact refused_error rfl

/-- A single term at distance one looks at no error rate and counts no error. -/
theorem answersProbability_of_not_probability (bits : Int) (spectrum : DistanceSpectrum) :
    AnswersProbability (chunkSurvival errorRate bits spectrum) := by
  obtain ⟨distance, weight, next⟩ := spectrum
  rw [chunkSurvival, not_same_zero_of_not_probability outside, if_neg Bool.false_ne_true,
    errorEventBound]
  by_cases one : distance = 1
  · subst one
    rw [weightedPairwise_one, ok_bind]
    cases next with
    | none =>
        have least : Scalar.least (0.0 : Exact tail) 1.0 = finite 0 := by norm_num
        have survives := (@answersProbability_power_iff tail 0 zero_le_one bits).mpr (by simp)
        dsimp only
        rw [least, one_eq_finite]
        exact survives
    | some nextWeight =>
        have next : (1 : Int) + 1 ≠ 1 := by decide
        exact .inl (((refused_weightedPairwise outside next nextWeight).bind _).bind _)
  · exact .inl (((refused_weightedPairwise outside one weight).bind _).bind _)

end OutOfRange

private theorem answersProbability_of_no_bits
    {spectrum : DistanceSpectrum} (none : spectrum.freeDistance < 1) (errorRate : Exact tail)
    (bits : Int) :
    AnswersProbability (chunkSurvival errorRate bits spectrum) := by
  rw [chunkSurvival]
  split_ifs with zero
  · rw [one_eq_finite, answersProbability_ok_iff]
    exact ⟨zero_le_one, le_rfl⟩
  · exact .inl (((refused_weightedPairwise_of_nonpos none errorRate _).bind _).bind _)

/-! ## Sound spectra -/

/-- Between the certain error rates and from distance one on, the combinations can be counted, and
the count of bits and the bound do not have opposite signs. -/
def DistanceSpectrum.SoundAt
    (spectrum : DistanceSpectrum) (bits : Int) (errorRate : ℝ) : Prop :=
  0 < errorRate → errorRate < 1 → 1 ≤ spectrum.freeDistance →
    spectrum.lastDistance < 2 ^ 64 ∧ 0 ≤ bits * eventMass spectrum errorRate

private theorem DistanceSpectrum.soundAt_of_nonneg
    {spectrum : DistanceSpectrum} {bits : Int} (count : 0 ≤ bits)
    (weight : 0 ≤ spectrum.freeWeight) (next : 0 ≤ spectrum.nextWeight.getD 0)
    (inReach : spectrum.lastDistance < 2 ^ 64) (errorRate : ℝ) :
    spectrum.SoundAt bits errorRate := by
  intro positive lt_one _
  have mass := eventMass_nonneg_of_weights weight next positive.le lt_one.le
  exact ⟨inReach, mul_nonneg (by exact_mod_cast count) mass⟩

private theorem answersProbability_chunkSurvival_iff
    (errorRate : ℝ) (bits : Int) (spectrum : DistanceSpectrum) :
    AnswersProbability (chunkSurvival (finite errorRate : Exact tail) bits spectrum) ↔
      spectrum.SoundAt bits errorRate := by
  by_cases someBits : 1 ≤ spectrum.freeDistance
  · by_cases inside : 0 ≤ errorRate ∧ errorRate ≤ 1
    · obtain ⟨nonneg, le_one⟩ := inside
      by_cases inReach : spectrum.lastDistance < 2 ^ 64 ∨ errorRate = 0 ∨ errorRate = 1
      · rw [chunkSurvival_of_countable ⟨someBits, inReach⟩ nonneg le_one,
          answersProbability_power_iff (eventMass_le_one spectrum errorRate)]
        constructor
        · intro agrees positive lt_one _
          exact ⟨inReach.resolve_right fun certain => certain.elim positive.ne' lt_one.ne, agrees⟩
        · intro sound
          by_cases certain : errorRate = 0 ∨ errorRate = 1
          · rw [eventMass_of_certain someBits certain, mul_zero]
          · rw [not_or] at certain
            exact (sound (lt_of_le_of_ne nonneg (Ne.symm certain.1))
              (lt_of_le_of_ne le_one certain.2) someBits).2
      · rw [not_or, not_or, not_lt] at inReach
        obtain ⟨uncountable, possible, uncertain⟩ := inReach
        have positive : 0 < errorRate := lt_of_le_of_ne nonneg (Ne.symm possible)
        have lt_one : errorRate < 1 := lt_of_le_of_ne le_one uncertain
        rw [chunkSurvival_of_uncountable positive lt_one someBits uncountable]
        exact iff_of_false (not_answersProbability_arithmetic _)
          fun sound => absurd (sound positive lt_one someBits).1 (not_lt.mpr uncountable)
    · have outside : ¬((0.0 : Exact tail) ≤ finite errorRate ∧
          (finite errorRate : Exact tail) ≤ 1.0) := by
        norm_num
        exact fun nonneg => not_le.mp fun le_one => inside ⟨nonneg, le_one⟩
      exact iff_of_true (answersProbability_of_not_probability outside bits spectrum)
        fun positive lt_one _ => absurd ⟨positive.le, lt_one.le⟩ inside
  · exact iff_of_true (answersProbability_of_no_bits (not_le.mp someBits) _ bits)
      fun _ _ some => absurd some someBits

/-- What is not sound has too many combinations, a negative power of zero, or a number above one. -/
theorem chunkSurvival_of_not_soundAt
    {errorRate : ℝ} {bits : Int} {spectrum : DistanceSpectrum}
    (unsound : ¬spectrum.SoundAt bits errorRate) :
    chunkSurvival (finite errorRate : Exact tail) bits spectrum =
        .error (.arithmetic .tooManyCombinations) ∨
      chunkSurvival (finite errorRate : Exact tail) bits spectrum =
        .error (.arithmetic .zeroToNegativePower) ∨
      ∃ share : ℝ, 1 < share ∧
        chunkSurvival (finite errorRate : Exact tail) bits spectrum = .ok (finite share) := by
  simp only [DistanceSpectrum.SoundAt, Classical.not_imp] at unsound
  obtain ⟨positive, lt_one, someBits, opposed⟩ := unsound
  by_cases inReach : spectrum.lastDistance < 2 ^ 64
  · right
    have opposite : ¬0 ≤ bits * eventMass spectrum errorRate :=
      fun agrees => opposed ⟨inReach, agrees⟩
    have le_one := eventMass_le_one spectrum errorRate
    rw [chunkSurvival_of_countable ⟨someBits, .inl inReach⟩ positive.le lt_one.le]
    by_cases defined : eventMass spectrum errorRate ≠ 1 ∨ 0 ≤ bits
    · have nonzero : 1 - eventMass spectrum errorRate ≠ 0 ∨ 0 ≤ bits :=
        defined.imp_left fun less => sub_ne_zero.mpr less.symm
      rw [power_finite _ nonzero, lift_ok]
      rw [← zpow_one_sub_le_one_iff le_one defined, not_le] at opposite
      exact .inr ⟨_, opposite, rfl⟩
    · rw [not_or, not_not, not_le] at defined
      left
      rw [defined.1, power_zero_of_neg defined.2, lift_error]
  · left
    exact chunkSurvival_of_uncountable positive lt_one someBits (not_lt.mp inReach) bits

/-! ## Survival on a channel -/

private theorem answersProbability_bind_iff
    {answer : Except (Fault (Exact tail)) (Exact tail)}
    (refuses : ∀ fault, answer = .error fault → fault.refusesQuestion)
    (bits : Int) (spectrum : DistanceSpectrum) :
    AnswersProbability (answer >>= fun errorRate => chunkSurvival errorRate bits spectrum) ↔
      ∀ errorRate : ℝ, answer = .ok (finite errorRate) → spectrum.SoundAt bits errorRate := by
  cases answer with
  | error fault =>
      exact iff_of_true (.inl ⟨fault, rfl, refuses fault rfl⟩) fun _ impossible => by
        cases impossible
  | ok value =>
      rw [ok_bind]
      cases value with
      | finite errorRate =>
          rw [answersProbability_chunkSurvival_iff]
          exact ⟨fun sound _ equality => by cases equality; exact sound, fun all => all _ rfl⟩
      | infinite negative =>
          have outside : ¬((0.0 : Exact tail) ≤ infinite negative ∧
              (infinite negative : Exact tail) ≤ 1.0) :=
            fun ⟨above, below⟩ => absurd (Eq.trans (Eq.symm below) above) (by decide)
          exact iff_of_true (answersProbability_of_not_probability outside bits spectrum)
            fun _ impossible => by cases impossible
      | notANumber =>
          have outside : ¬((0.0 : Exact tail) ≤ notANumber ∧ (notANumber : Exact tail) ≤ 1.0) :=
            fun inside => not_notANumber_le _ inside.2
          exact iff_of_true (answersProbability_of_not_probability outside bits spectrum)
            fun _ impossible => by cases impossible

section Channel

variable {snr width rate : Exact tail} {fault : Fault (Exact tail)}

private theorem refusesQuestion_of_bitEnergyRatio
    (failed : bitEnergyRatio snr width rate = .error fault) : fault.refusesQuestion := by
  unfold bitEnergyRatio at failed
  split_ifs at failed <;>
  · cases failed
    rfl

private theorem refusesQuestion_of_bitErrorRate
    {size : Int} (member : size ∈ constellationSizes)
    (failed : bitErrorRate snr size width rate = .error fault) : fault.refusesQuestion := by
  cases known : bitEnergyRatio snr width rate with
  | error cause =>
      rw [bitErrorRate_of_fault member known] at failed
      cases failed
      exact refusesQuestion_of_bitEnergyRatio known
  | ok value =>
      rcases bitEnergyRatio_eq_ok known with rfl | ⟨s, w, r, _, _, _, _, rfl⟩
      · rw [bitErrorRate_of_no_energy member known] at failed
        cases failed
      · rw [bitErrorRate_of_energy member known] at failed
        cases failed

private theorem refusesQuestion_of_bpskErrorRate
    (failed : bpskErrorRate snr width rate = .error fault) : fault.refusesQuestion := by
  have same : bitErrorRate snr 2 width rate = bpskErrorRate snr width rate := if_pos rfl
  exact refusesQuestion_of_bitErrorRate (by decide) (same.trans failed)

private theorem refusesQuestion_of_qamErrorRate
    {size : Int} (failed : qamErrorRate snr size width rate = .error fault) :
    fault.refusesQuestion := by
  by_cases unsupported : size ∉ constellationSizes ∨ size = 2
  · rw [qamErrorRate, if_pos unsupported] at failed
    cases failed
    rfl
  · rw [not_or, not_not] at unsupported
    have same : bitErrorRate snr size width rate = qamErrorRate snr size width rate :=
      if_neg unsupported.2
    exact refusesQuestion_of_bitErrorRate unsupported.1 (same.trans failed)

end Channel

/-- A survival is refused or a probability just where spectrum and count of bits are sound at the
bit error rate, whether that is given or calculated from a channel. They are at every rate if
count and weights are not negative and the distances below `2 ^ 64`. Where they are not, there are
too many combinations to be counted, a negative power of zero, or a number above one. -/
theorem answersProbability_iff_soundAt
    (tail : ErrorTail) (bits : Int) (spectrum : DistanceSpectrum) :
    (∀ errorRate : ℝ,
      AnswersProbability (chunkSurvival (finite errorRate : Exact tail) bits spectrum) ↔
        spectrum.SoundAt bits errorRate) ∧
    (∀ snr width rate : Exact tail,
      AnswersProbability
          (bpskSurvival snr bits width rate spectrum.freeDistance spectrum.freeWeight) ↔
        ∀ errorRate : ℝ, bpskErrorRate snr width rate = .ok (finite errorRate) →
          { spectrum with nextWeight := none }.SoundAt bits errorRate) ∧
    (∀ (snr width rate : Exact tail) (constellation : Int),
      AnswersProbability (qamSurvival snr bits width rate constellation spectrum) ↔
        ∀ errorRate : ℝ, qamErrorRate snr constellation width rate = .ok (finite errorRate) →
          spectrum.SoundAt bits errorRate) ∧
    (0 ≤ bits → 0 ≤ spectrum.freeWeight → 0 ≤ spectrum.nextWeight.getD 0 →
      spectrum.lastDistance < 2 ^ 64 → ∀ errorRate : ℝ, spectrum.SoundAt bits errorRate) ∧
    ∀ errorRate : ℝ, ¬spectrum.SoundAt bits errorRate →
      chunkSurvival (finite errorRate : Exact tail) bits spectrum =
          .error (.arithmetic .tooManyCombinations) ∨
        chunkSurvival (finite errorRate : Exact tail) bits spectrum =
          .error (.arithmetic .zeroToNegativePower) ∨
        ∃ share : ℝ, 1 < share ∧
          chunkSurvival (finite errorRate : Exact tail) bits spectrum = .ok (finite share) := by
  refine ⟨?_, ?_, ?_, ?_, ?_⟩
  · intro errorRate
    exact answersProbability_chunkSurvival_iff errorRate bits spectrum
  · intro snr width rate
    exact answersProbability_bind_iff (fun _ => refusesQuestion_of_bpskErrorRate) bits _
  · intro snr width rate constellation
    exact answersProbability_bind_iff (fun _ => refusesQuestion_of_qamErrorRate) bits spectrum
  · intro count weight next inReach errorRate
    exact DistanceSpectrum.soundAt_of_nonneg count weight next inReach errorRate
  · intro errorRate unsound
    exact chunkSurvival_of_not_soundAt unsound

private theorem eventMass_tenth : eventMass .threeQuarters (1 / 10) = 171 / 2500 := by
  have distance : DistanceSpectrum.threeQuarters.freeDistance.toNat = 5 := rfl
  have pairwise : pairwiseMass 5 (1 / 10) = 171 / 20000 := by
    norm_num [pairwiseMass, partialTail, binomialMass, Finset.sum_Ico_succ_top, Nat.choose]
  rw [eventMass, distance, pairwise]
  norm_num [DistanceSpectrum.threeQuarters]

/-- The chance of minus one bits, every tenth of them wrong, is above one. -/
theorem negativeCount_survival :
    chunkSurvival (finite (1 / 10) : Exact gaussianTail) (-1) .threeQuarters =
        .ok (finite (2500 / 2329)) ∧
      ¬AnswersProbability
        (chunkSurvival (finite (1 / 10) : Exact gaussianTail) (-1) .threeQuarters) := by
  have counts : DistanceSpectrum.threeQuarters.CountableAt (1 / 10) :=
    ⟨by decide, .inl (by decide)⟩
  constructor
  · rw [chunkSurvival_of_countable counts (by norm_num) (by norm_num), eventMass_tenth,
      power_finite _ (Or.inl (by norm_num)), lift_ok]
    norm_num
  · rw [(answersProbability_iff_soundAt gaussianTail (-1) .threeQuarters).1 (1 / 10)]
    intro sound
    have agrees := (sound (by norm_num) (by norm_num) (by decide)).2
    rw [eventMass_tenth] at agrees
    norm_num at agrees

end WifiLink
