import WifiLink.Proofs.Estimate.Outcome

/-!
# Order of the success probability

Each argument of a query acts through the energy per bit or through the number of bits. A louder
signal and a longer guard interval raise the energy and more streams lower it; the probability
rises with the energy and is a power in the number of bits.
-/

namespace WifiLink

open Exact

variable {tail : ErrorTail} {tx : Transmission (Exact tail)}
  {settings : Settings (Exact tail)} {chunk : Chunk (Exact tail)}

/-- The energy per bit of a chunk of a transmission. -/
noncomputable def chunkEnergy
    (tx : Transmission (Exact tail)) (settings : Settings (Exact tail))
    (chunk : Chunk (Exact tail)) : Except (Fault (Exact tail)) (Exact tail) :=
  energyAt tx (tx.effectiveRate chunk.mode chunk.station settings) chunk.snr

/-! ## Energies of two queries -/

/-- Streams and guard interval reach the energy through the rate of the payload alone. -/
theorem chunkEnergy_of_payload
    (coded : chunk.mode.isCodedOfdm) {energy energy' : ENNReal}
    {streams streams' guardInterval guardInterval' : Int}
    (slower : ∀ {rate rate' : ENNReal}, 0 < rate → 0 < rate' →
      chunk.mode.phyRate tx.width streams guardInterval = .ok (extend rate) →
        chunk.mode.phyRate tx.width streams' guardInterval' = .ok (extend rate') →
          rate' ≤ rate)
    (known : chunkEnergy { tx with streams := streams, guardInterval := guardInterval }
      settings chunk = .ok (extend energy))
    (known' : chunkEnergy { tx with streams := streams', guardInterval := guardInterval' }
      settings chunk = .ok (extend energy')) :
    energy ≤ energy' := by
  obtain ⟨rate, sent, known⟩ := bind_eq_ok_iff.mp known
  obtain ⟨rate', sent', known'⟩ := bind_eq_ok_iff.mp known'
  obtain ⟨s, w, r, positive, ratio, width, rfl, rfl⟩ := bitEnergyRatio_eq_extend known
  obtain ⟨s', w', r', positive', ratio', width', rfl, rfl⟩ := bitEnergyRatio_eq_extend known'
  obtain rfl : s = s' := extend_injective (ratio.symm.trans ratio')
  obtain rfl : w = w' := extend_injective (width.symm.trans width')
  apply energyRatio_mono le_rfl
  rcases Transmission.effectiveRate_eq_ok coded sent with ⟨header, rate⟩ | ⟨payload, rate⟩
  · rcases Transmission.effectiveRate_eq_ok coded sent' with ⟨_, rate'⟩ | ⟨payload', _⟩
    · exact (extend_injective (Except.ok.inj (rate'.symm.trans rate))).le
    · exact absurd header payload'
  · rcases Transmission.effectiveRate_eq_ok coded sent' with ⟨header', _⟩ | ⟨_, rate'⟩
    · exact absurd header' payload
    · exact slower positive positive' rate rate'

/-! ## Probabilities of two queries -/

section Probabilities

variable {tx' : Transmission (Exact tail)} {chunk' : Chunk (Exact tail)}
  {probability probability' : Exact tail}

/-- Two answers for one mode and one number of bits are ordered as their energies are. -/
theorem probability_mono_of_energy
    (antitone : Antitone tail)
    (sameMode : chunk'.mode = chunk.mode) (sameBits : chunk'.bits = chunk.bits)
    (ordered : ∀ {energy energy' : ENNReal}, chunk.mode.isCodedOfdm →
      0 < chunk.mode.constellation → chunkEnergy tx settings chunk = .ok (extend energy) →
        chunkEnergy tx' settings chunk' = .ok (extend energy') → energy ≤ energy')
    (answered : estimate tx settings chunk = .ok (.modeled probability))
    (answered' : estimate tx' settings chunk' = .ok (.modeled probability')) :
    probability ≤ probability' := by
  obtain ⟨spectrum, bits, energy, rests, rfl⟩ := estimateWith_eq_modeled_iff.mp answered
  obtain ⟨spectrum', bits', energy', rests', rfl⟩ := estimateWith_eq_modeled_iff.mp answered'
  have listed' := rests'.listed
  rw [sameMode] at listed'
  obtain rfl := DistanceSpectrum.eq_of_mem_table rests.listed listed'
  obtain rfl : bits = bits' :=
    natural_eq_of_integer_eq (rests.bits_eq.symm.trans (sameBits.symm.trans rests'.bits_eq))
  have points : 0 < chunk.mode.constellation := two_pos.trans_le
    (two_le_constellation (DistanceSpectrum.constellation_of_mem_table rests.listed))
  have more := ordered rests.coded points rests.energy_eq rests'.energy_eq
  rw [sameMode, finite_le_finite]
  exact survivalShare_mono_energy rests.listed antitone bits more

private theorem probability_mono_snr
    (antitone : Antitone tail) {snr snr' : Exact tail} (louder : snr ≤ snr')
    (answered : estimate tx settings { chunk with snr := snr } = .ok (.modeled probability))
    (answered' : estimate tx settings { chunk with snr := snr' } = .ok (.modeled probability')) :
    probability ≤ probability' := by
  refine probability_mono_of_energy antitone ?_ ?_ ?_ answered answered'
  · rfl
  · rfl
  · intro energy energy' _ _ known known'
    exact energyAt_mono_snr louder known known'

private theorem probability_antitone_streams
    (antitone : Antitone tail) {streams streams' : Int} (more : streams ≤ streams')
    (answered : estimate { tx with streams := streams } settings chunk =
      .ok (.modeled probability))
    (answered' : estimate { tx with streams := streams' } settings chunk =
      .ok (.modeled probability')) :
    probability' ≤ probability := by
  refine probability_mono_of_energy antitone rfl rfl ?_ answered' answered
  intro energy energy' coded points known known'
  refine chunkEnergy_of_payload coded ?_ known known'
  intro rate rate' _ positive faster slower
  exact WifiMode.phyRate_mono_streams points coded more positive slower faster

private theorem probability_mono_guardInterval
    (antitone : Antitone tail) {guardInterval guardInterval' : Int}
    (longer : guardInterval ≤ guardInterval')
    (answered : estimate { tx with guardInterval := guardInterval } settings chunk =
      .ok (.modeled probability))
    (answered' : estimate { tx with guardInterval := guardInterval' } settings chunk =
      .ok (.modeled probability')) :
    probability ≤ probability' := by
  refine probability_mono_of_energy antitone rfl rfl ?_ answered answered'
  intro energy energy' coded points known known'
  refine chunkEnergy_of_payload coded ?_ known known'
  intro rate rate' positive _ faster slower
  exact WifiMode.phyRate_antitone_guardInterval points coded longer positive faster slower

/-- A code and an energy serve every number of bits. -/
theorem estimate_bits
    {spectrum : DistanceSpectrum} {bits : ℕ} {energy : ENNReal}
    (rests : RestsOn tx (tx.effectiveRate chunk.mode chunk.station settings) chunk spectrum bits
      energy)
    (bits' : ℕ) :
    estimate tx settings { chunk with bits := .integer bits' } =
      .ok (.modeled
        (finite (survivalShare tail chunk.mode.constellation spectrum energy bits'))) :=
  estimateWith_eq_modeled_iff.mpr
    ⟨spectrum, bits', energy, ⟨rests.coded, rests.listed, rfl, rests.energy_eq⟩, rfl⟩

end Probabilities

/-- With all other arguments fixed, the success probability does not fall when the signal gets
louder, does not rise with the number of bits or of streams, and does not fall when the guard
interval gets longer. No bits always arrive, and a chunk arrives as two independent parts of it
do. -/
theorem estimate_probability_order
    (antitone : Antitone tail) (tx : Transmission (Exact tail))
    (settings : Settings (Exact tail)) (chunk : Chunk (Exact tail)) :
    (∀ (snr snr' probability probability' : Exact tail), snr ≤ snr' →
      estimate tx settings { chunk with snr := snr } = .ok (.modeled probability) →
        estimate tx settings { chunk with snr := snr' } = .ok (.modeled probability') →
          probability ≤ probability') ∧
    (∀ (bits bits' : Int) (probability probability' : Exact tail), bits ≤ bits' →
      estimate tx settings { chunk with bits := .integer bits } = .ok (.modeled probability) →
        estimate tx settings { chunk with bits := .integer bits' } =
            .ok (.modeled probability') →
          probability' ≤ probability) ∧
    (∀ (streams streams' : Int) (probability probability' : Exact tail), streams ≤ streams' →
      estimate { tx with streams := streams } settings chunk = .ok (.modeled probability) →
        estimate { tx with streams := streams' } settings chunk =
            .ok (.modeled probability') →
          probability' ≤ probability) ∧
    (∀ (guardInterval guardInterval' : Int) (probability probability' : Exact tail),
      guardInterval ≤ guardInterval' →
        estimate { tx with guardInterval := guardInterval } settings chunk =
            .ok (.modeled probability) →
          estimate { tx with guardInterval := guardInterval' } settings chunk =
              .ok (.modeled probability') →
            probability ≤ probability') ∧
    (∀ probability, estimate tx settings chunk = .ok (.modeled probability) →
      estimate tx settings { chunk with bits := .integer 0 } = .ok (.modeled (finite 1))) ∧
    (∀ (first second : Int) (probability probability' : Exact tail),
      estimate tx settings { chunk with bits := .integer first } = .ok (.modeled probability) →
        estimate tx settings { chunk with bits := .integer second } =
            .ok (.modeled probability') →
          estimate tx settings { chunk with bits := .integer (first + second) } =
            .ok (.modeled (probability * probability'))) := by
  refine ⟨?_, ?_, ?_, ?_, ?_, ?_⟩
  · intro snr snr' probability probability' louder answered answered'
    exact probability_mono_snr antitone louder answered answered'
  · intro bits bits' probability probability' more answered answered'
    obtain ⟨spectrum, count, energy, rests, rfl⟩ := estimateWith_eq_modeled_iff.mp answered
    obtain ⟨_, count', _, rests', _⟩ := estimateWith_eq_modeled_iff.mp answered'
    obtain rfl : bits = count := Literal.integer.inj rests.bits_eq
    obtain rfl : bits' = count' := Literal.integer.inj rests'.bits_eq
    rw [estimate_bits rests count'] at answered'
    cases answered'
    rw [finite_le_finite]
    exact survivalShare_antitone_bits rests.listed tail energy (by exact_mod_cast more)
  · intro streams streams' probability probability' more answered answered'
    exact probability_antitone_streams antitone more answered answered'
  · intro guardInterval guardInterval' probability probability' longer answered answered'
    exact probability_mono_guardInterval antitone longer answered answered'
  · intro probability answered
    obtain ⟨spectrum, bits, energy, rests, rfl⟩ := estimateWith_eq_modeled_iff.mp answered
    have empty := estimate_bits rests 0
    rw [survivalShare, pow_zero] at empty
    exact empty
  · intro first second probability probability' answered answered'
    obtain ⟨spectrum, count, energy, rests, rfl⟩ := estimateWith_eq_modeled_iff.mp answered
    obtain ⟨_, count', _, rests', _⟩ := estimateWith_eq_modeled_iff.mp answered'
    obtain rfl : first = count := Literal.integer.inj rests.bits_eq
    obtain rfl : second = count' := Literal.integer.inj rests'.bits_eq
    rw [estimate_bits rests count'] at answered'
    cases answered'
    rw [finite_mul_finite, survivalShare, survivalShare, ← pow_add]
    exact estimate_bits rests (count + count')

/-- Eight bits of the sample transmission: without a signal, with a stream more, with a shorter
guard interval, and as the halves of sixteen bits. -/
theorem htTransmission_probability_order :
    ∃ probability silent faster shorter : Exact gaussianTail,
      estimate (htTransmission gaussianTail 1 1600) .standard (htChunk (finite 4) 8) =
        .ok (.modeled probability) ∧
      estimate (htTransmission gaussianTail 1 1600) .standard (htChunk (finite 0) 8) =
        .ok (.modeled silent) ∧ silent ≤ probability ∧
      estimate (htTransmission gaussianTail 2 1600) .standard (htChunk (finite 4) 8) =
        .ok (.modeled faster) ∧ faster ≤ probability ∧
      estimate (htTransmission gaussianTail 1 800) .standard (htChunk (finite 4) 8) =
        .ok (.modeled shorter) ∧ shorter ≤ probability ∧
      estimate (htTransmission gaussianTail 1 1600) .standard (htChunk (finite 4) 0) =
        .ok (.modeled (finite 1)) ∧
      estimate (htTransmission gaussianTail 1 1600) .standard (htChunk (finite 4) 16) =
        .ok (.modeled (probability * probability)) ∧ probability * probability ≤ probability := by
  have long : (0 : Int) ≤ 1600 := by decide
  have short : (0 : Int) ≤ 800 := by decide
  have four : (0 : ℝ) ≤ 4 := by norm_num
  have louder : (finite 0 : Exact gaussianTail) ≤ finite 4 := (finite_le_finite _ _).mpr four
  obtain ⟨probability, answered⟩ := @exists_probability_htChunk gaussianTail 1 1600 le_rfl long
    4 four 8
  obtain ⟨silent, answeredSilent⟩ := @exists_probability_htChunk gaussianTail 1 1600 le_rfl long
    0 le_rfl 8
  obtain ⟨faster, answeredFaster⟩ := @exists_probability_htChunk gaussianTail 2 1600 (by decide)
    long 4 four 8
  obtain ⟨shorter, answeredShorter⟩ := @exists_probability_htChunk gaussianTail 1 800 le_rfl short
    4 four 8
  obtain ⟨bySnr, byBits, byStreams, byGuardInterval, empty, parts⟩ :=
    estimate_probability_order gaussianTail_antitone (htTransmission gaussianTail 1 1600)
      .standard (htChunk (finite 4) 8)
  have whole := parts 8 8 probability probability answered answered
  exact ⟨probability, silent, faster, shorter, answered,
    answeredSilent, bySnr _ _ _ _ louder answeredSilent answered,
    answeredFaster, byStreams 1 2 _ _ (by decide) answered answeredFaster,
    answeredShorter, byGuardInterval 800 1600 _ _ (by decide) answeredShorter answered,
    empty probability answered, whole, byBits 8 16 _ _ (by decide) answered whole⟩

end WifiLink
