import WifiLink.Estimate
import WifiLink.Proofs.BitError
import WifiLink.Proofs.Code.Survival
import WifiLink.Proofs.Transmission

/-!
# What an estimate rests on

An estimate with a probability comes from a listed code, a count of bits and an energy per bit,
and from nothing else: these give the probability as a power of what the union bound leaves.
-/

namespace WifiLink

open Exact

variable {tail : ErrorTail}

/-- The probability that a chunk survives, from the energy per bit. -/
noncomputable def survivalShare
    (tail : ErrorTail) (size : Int) (spectrum : DistanceSpectrum) (energy : ENNReal)
    (bits : ℕ) : ℝ :=
  (1 - eventMass spectrum (errorShare tail size energy)) ^ bits

namespace DistanceSpectrum

theorem constellation_of_mem_table {entry : Int × CodeRate × DistanceSpectrum}
    (member : entry ∈ table) :
    entry.1 ∈ constellationSizes := by
  revert entry
  decide

/-- Constellation and code rate have one spectrum. -/
theorem eq_of_mem_table
    {size : Int} {rate : CodeRate} {first second : DistanceSpectrum}
    (firstMember : (size, rate, first) ∈ table) (secondMember : (size, rate, second) ∈ table) :
    first = second := by
  have found := find?_of_mem_table firstMember
  rw [find?_of_mem_table secondMember] at found
  cases found
  rfl

end DistanceSpectrum

section SurvivalShare

variable {size : Int} {rate : CodeRate} {spectrum : DistanceSpectrum}
  (listed : (size, rate, spectrum) ∈ DistanceSpectrum.table)
include listed

theorem survivalBase_mem (tail : ErrorTail) (energy : ENNReal) :
    0 ≤ 1 - eventMass spectrum (errorShare tail size energy) ∧
      1 - eventMass spectrum (errorShare tail size energy) ≤ 1 := by
  have member := DistanceSpectrum.constellation_of_mem_table listed
  have regular := DistanceSpectrum.regular_of_mem_table listed
  have nonneg := errorShare_nonneg member tail energy
  have le_half := errorShare_le_half member tail energy
  have mass : 0 ≤ eventMass spectrum (errorShare tail size energy) :=
    eventMass_nonneg regular nonneg (by linarith)
  have massLe := eventMass_le_one spectrum (errorShare tail size energy)
  constructor <;> linarith

theorem survivalShare_mem (tail : ErrorTail) (energy : ENNReal) (bits : ℕ) :
    0 ≤ survivalShare tail size spectrum energy bits ∧
      survivalShare tail size spectrum energy bits ≤ 1 := by
  obtain ⟨nonneg, le_one⟩ := survivalBase_mem listed tail energy
  exact ⟨pow_nonneg nonneg bits, pow_le_one₀ nonneg le_one⟩

theorem survivalShare_antitone_bits (tail : ErrorTail) (energy : ENNReal) :
    Antitone (survivalShare tail size spectrum energy) := by
  intro bits bits' more
  obtain ⟨nonneg, le_one⟩ := survivalBase_mem listed tail energy
  exact pow_le_pow_of_le_one nonneg le_one more

/-- The smaller bound leaves more chunks. -/
theorem survivalShare_le_of_eventMass_le
    {size' : Int} {spectrum' : DistanceSpectrum} {energy energy' : ENNReal}
    (mass : eventMass spectrum' (errorShare tail size' energy') ≤
      eventMass spectrum (errorShare tail size energy)) (bits : ℕ) :
    survivalShare tail size spectrum energy bits ≤
      survivalShare tail size' spectrum' energy' bits := by
  have base := (survivalBase_mem listed tail energy).1
  exact pow_le_pow_left₀ base (by linarith) bits

/-- The bit error rate stays where the union bound grows with it. -/
theorem survivalShare_mono_energy (antitone : Antitone tail) (bits : ℕ) :
    Monotone fun energy => survivalShare tail size spectrum energy bits := by
  intro energy energy' more
  have member := DistanceSpectrum.constellation_of_mem_table listed
  have regular := DistanceSpectrum.regular_of_mem_table listed
  have fewer := errorShare_antitone member antitone more
  have mass :
      eventMass spectrum (errorShare tail size energy') ≤
        eventMass spectrum (errorShare tail size energy) :=
    eventMass_monotoneOn regular
      ⟨errorShare_nonneg member tail energy', errorShare_le_half member tail energy'⟩
      ⟨errorShare_nonneg member tail energy, errorShare_le_half member tail energy⟩ fewer
  exact survivalShare_le_of_eventMass_le listed mass bits

end SurvivalShare

/-- The energy per bit at a signal-to-noise ratio, given where the rate comes from. -/
noncomputable def energyAt
    (tx : Transmission (Exact tail)) (rate : Except (Fault (Exact tail)) (Exact tail))
    (snr : Exact tail) : Except (Fault (Exact tail)) (Exact tail) := do
  bitEnergyRatio snr tx.width (← rate)

/-- A code, a count of bits and an energy that an estimate can be made from. -/
structure RestsOn
    (tx : Transmission (Exact tail)) (rate : Except (Fault (Exact tail)) (Exact tail))
    (chunk : Chunk (Exact tail)) (spectrum : DistanceSpectrum) (bits : ℕ)
    (energy : ENNReal) : Prop where
  coded : chunk.mode.isCodedOfdm
  listed : (chunk.mode.constellation, chunk.mode.codeRate, spectrum) ∈ DistanceSpectrum.table
  bits_eq : chunk.bits = .integer bits
  energy_eq : energyAt tx rate chunk.snr = .ok (extend energy)

theorem natural_eq_of_integer_eq {bits bits' : ℕ}
    (same : Literal.integer bits = .integer bits') : bits = bits' := by
  rw [Literal.integer.injEq] at same
  exact_mod_cast same

theorem bitCount_eq_ok_iff {α : Type} {bits : Literal} {count : Int} :
    (bitCount bits : Except (Fault α) Int) = .ok count ↔ bits = .integer count ∧ 0 ≤ count := by
  cases bits with
  | integer value =>
      by_cases negative : value < 0
      · simp only [bitCount, if_pos negative]
        constructor
        · intro impossible
          cases impossible
        · rintro ⟨equality, nonneg⟩
          cases equality
          omega
      · simp only [bitCount, if_neg negative]
        constructor
        · intro equality
          cases equality
          exact ⟨rfl, not_lt.mp negative⟩
        · rintro ⟨equality, _⟩
          cases equality
          rfl
  | _ => simp [bitCount]

section EstimateWith

variable {α : Type} [Scalar α] {tx : Transmission α} {rate : Except (Fault α) α} {chunk : Chunk α}

/-- What an estimate with a probability is made of, for any kind of numbers. -/
theorem estimateWith_eq_modeled {probability : α}
    (answered : estimateWith tx rate chunk = .ok (.modeled probability)) :
    chunk.mode.isCodedOfdm ∧ ∃ bits spectrum value,
      chunk.bits = .integer bits ∧ 0 ≤ bits ∧
      (DistanceSpectrum.lookup chunk.mode.constellation (.rate chunk.mode.codeRate) :
        Except (Fault α) DistanceSpectrum) = .ok spectrum ∧
      rate = .ok value ∧
      survivalAt tx chunk.mode.constellation chunk.snr bits value spectrum = .ok probability := by
  obtain ⟨_, _, answered⟩ := bind_eq_ok_iff.mp answered
  obtain ⟨bits, counted, answered⟩ := bind_eq_ok_iff.mp answered
  obtain ⟨bits_eq, nonneg⟩ := bitCount_eq_ok_iff.mp counted
  split_ifs at answered with coded
  · obtain ⟨spectrum, found, answered⟩ := bind_eq_ok_iff.mp answered
    obtain ⟨value, sent, answered⟩ := bind_eq_ok_iff.mp answered
    obtain ⟨share, survives, answered⟩ := bind_eq_ok_iff.mp answered
    cases answered
    exact ⟨coded, bits, spectrum, value, bits_eq, nonneg, found, sent, survives⟩
  · cases answered

theorem estimateWith_eq_unmodeled {modulation : ModulationClass}
    (answered : estimateWith tx rate chunk = .ok (.unmodeled modulation)) :
    ¬chunk.mode.isCodedOfdm ∧ modulation = chunk.mode.modulation := by
  obtain ⟨_, _, answered⟩ := bind_eq_ok_iff.mp answered
  obtain ⟨_, _, answered⟩ := bind_eq_ok_iff.mp answered
  split_ifs at answered with coded
  · obtain ⟨_, _, answered⟩ := bind_eq_ok_iff.mp answered
    obtain ⟨_, _, answered⟩ := bind_eq_ok_iff.mp answered
    obtain ⟨_, _, answered⟩ := bind_eq_ok_iff.mp answered
    cases answered
  · cases answered
    exact ⟨coded, rfl⟩

end EstimateWith

theorem checkSnr_extend (snr : ENNReal) :
    checkSnr (extend snr : Exact tail) = .ok () :=
  if_neg ((not_refusable_iff _).mpr ⟨snr, rfl⟩)

section SurvivalAt

variable {tx : Transmission (Exact tail)} {size : Int} {codeRate : CodeRate}
  {spectrum : DistanceSpectrum} (listed : (size, codeRate, spectrum) ∈ DistanceSpectrum.table)
  {snr rate : Exact tail}
include listed

theorem survivalAt_of_energy
    {energy : ENNReal} (known : bitEnergyRatio snr tx.width rate = .ok (extend energy))
    (bits : ℕ) :
    survivalAt tx size snr bits rate spectrum =
      .ok (finite (survivalShare tail size spectrum energy bits)) := by
  have member := DistanceSpectrum.constellation_of_mem_table listed
  have regular := DistanceSpectrum.regular_of_mem_table listed
  have le_half := errorShare_le_half member tail energy
  rw [survivalAt, bitErrorRate_of_energy member known, ok_bind,
    chunkSurvival_finite regular (errorShare_nonneg member tail energy)
      (le_half.trans one_half_lt_one.le), survivalShare]

/-- Without an energy the error rate is refused as a probability. -/
theorem energy_of_survivalAt
    {bits : Int} {probability : Exact tail}
    (answered : survivalAt tx size snr bits rate spectrum = .ok probability) :
    ∃ energy : ENNReal, bitEnergyRatio snr tx.width rate = .ok (extend energy) := by
  have member := DistanceSpectrum.constellation_of_mem_table listed
  have regular := DistanceSpectrum.regular_of_mem_table listed
  cases known : bitEnergyRatio snr tx.width rate with
  | error fault =>
      rw [survivalAt, bitErrorRate_of_fault member known] at answered
      cases answered
  | ok value =>
      rcases bitEnergyRatio_eq_ok known with rfl | ⟨s, w, r, _, _, _, _, rfl⟩
      · have outside : ¬((0.0 : Exact tail) ≤ notANumber ∧ (notANumber : Exact tail) ≤ 1.0) :=
          fun inside => not_notANumber_le _ inside.2
        rw [survivalAt, bitErrorRate_of_no_energy member known, ok_bind,
          chunkSurvival_of_not_probability regular outside] at answered
        cases answered
      · exact ⟨_, rfl⟩

end SurvivalAt

section Estimate

variable {tx : Transmission (Exact tail)} {chunk : Chunk (Exact tail)}

/-- An estimate has a probability just where it has something to rest on. -/
theorem estimateWith_eq_modeled_iff
    {rate : Except (Fault (Exact tail)) (Exact tail)} {probability : Exact tail} :
    estimateWith tx rate chunk = .ok (.modeled probability) ↔
      ∃ spectrum bits energy, RestsOn tx rate chunk spectrum bits energy ∧
        probability =
          finite (survivalShare tail chunk.mode.constellation spectrum energy bits) := by
  constructor
  · intro answered
    obtain ⟨coded, count, spectrum, value, bits_eq, nonneg, found, sent, survives⟩ :=
      estimateWith_eq_modeled answered
    obtain ⟨bits, rfl⟩ := Int.eq_ofNat_of_zero_le nonneg
    have listed := DistanceSpectrum.lookup_eq_ok_iff.mp found
    obtain ⟨energy, known⟩ := energy_of_survivalAt listed survives
    rw [survivalAt_of_energy listed known] at survives
    refine ⟨spectrum, bits, energy, ⟨coded, listed, bits_eq, ?_⟩, (Except.ok.inj survives).symm⟩
    rw [energyAt, sent, ok_bind, known]
  · rintro ⟨spectrum, bits, energy, ⟨coded, listed, bits_eq, energy_eq⟩, rfl⟩
    obtain ⟨value, sent, known⟩ := bind_eq_ok_iff.mp energy_eq
    obtain ⟨s, _, _, _, ratio, _⟩ := bitEnergyRatio_eq_extend known
    have passed : checkSnr chunk.snr = .ok () := by
      rw [ratio, checkSnr_extend]
    rw [estimateWith, passed, ok_bind,
      bitCount_eq_ok_iff.mpr ⟨bits_eq, Int.natCast_nonneg bits⟩, ok_bind, if_pos coded,
      DistanceSpectrum.lookup_eq_ok_iff.mpr listed, ok_bind, sent, ok_bind,
      survivalAt_of_energy listed known, ok_bind]
    rfl

theorem energyAt_mono_snr
    {rate : Except (Fault (Exact tail)) (Exact tail)} {snr snr' : Exact tail}
    {energy energy' : ENNReal} (louder : snr ≤ snr')
    (known : energyAt tx rate snr = .ok (extend energy))
    (known' : energyAt tx rate snr' = .ok (extend energy')) :
    energy ≤ energy' := by
  obtain ⟨value, sent, known⟩ := bind_eq_ok_iff.mp known
  obtain ⟨value', sent', known'⟩ := bind_eq_ok_iff.mp known'
  obtain rfl : value = value' := Except.ok.inj (sent.symm.trans sent')
  obtain ⟨s, w, r, _, ratio, width, rate_eq, rfl⟩ := bitEnergyRatio_eq_extend known
  obtain ⟨s', w', r', _, ratio', width', rate_eq', rfl⟩ := bitEnergyRatio_eq_extend known'
  obtain rfl : w = w' := extend_injective (width.symm.trans width')
  obtain rfl : r = r' := extend_injective (rate_eq.symm.trans rate_eq')
  have ordered : s ≤ s' := by
    rw [← @extend_le_extend tail, ← ratio, ← ratio']
    exact louder
  exact energyRatio_mono ordered le_rfl

theorem energyAt_of_rate
    {rate : Except (Fault (Exact tail)) (Exact tail)} {w r : ℝ} (width : tx.width = finite w)
    (wide : 0 < w) (sent : rate = .ok (finite r)) (positive : 0 < r) (snr : ENNReal) :
    energyAt tx rate (extend snr) =
      .ok (extend (energyRatio snr (ENNReal.ofReal w) (ENNReal.ofReal r))) := by
  rw [energyAt, sent, ok_bind, width, finite_eq_extend wide.le, finite_eq_extend positive.le]
  exact bitEnergyRatio_extend (ENNReal.ofReal_pos.mpr wide) (ENNReal.ofReal_pos.mpr positive)
    (Or.inr ENNReal.ofReal_ne_top) (Or.inr ENNReal.ofReal_ne_top)

/-- A ratio above zero has an energy when another ratio has one at the same rate. -/
theorem exists_energyAt
    {rate : Except (Fault (Exact tail)) (Exact tail)}
    (real : ∀ value, rate = .ok value → value ≠ infinite false)
    {snr : Exact tail} {energy : ENNReal} (known : energyAt tx rate snr = .ok (extend energy))
    {other : Exact tail} (audible : finite 0 < other) :
    ∃ energy' : ENNReal, energyAt tx rate other = .ok (extend energy') := by
  obtain ⟨value, sent, known⟩ := bind_eq_ok_iff.mp known
  obtain ⟨_, w, r, positive, _, width, rfl, _⟩ := bitEnergyRatio_eq_extend known
  obtain ⟨s, some, rfl⟩ := exists_extend_of_pos audible
  have wide : 0 < w := by
    have above := tx.width_positive
    rw [width, zero_eq_finite, extend_nonpos_iff] at above
    exact pos_iff_ne_zero.mpr above
  have slow : r ≠ ⊤ := by
    rintro rfl
    exact real _ sent extend_top
  refine ⟨energyRatio s w r, ?_⟩
  rw [energyAt, sent, ok_bind, width]
  exact bitEnergyRatio_extend wide positive (Or.inl some.ne') (Or.inr slow)

theorem modeled_of_coded
    {rate : Except (Fault (Exact tail)) (Exact tail)} (coded : chunk.mode.isCodedOfdm)
    {result : Estimate (Exact tail)} (answered : estimateWith tx rate chunk = .ok result) :
    ∃ probability, result = .modeled probability := by
  cases result with
  | modeled probability => exact ⟨probability, rfl⟩
  | unmodeled modulation => exact absurd coded (estimateWith_eq_unmodeled answered).1

end Estimate

end WifiLink
