import WifiLink.Proofs.Estimate.Basic

/-!
# Estimates without a transmission

A chunk's survival can be had from a transmission, which finds code and bit rate itself, or from
the formula of its constellation, which is told both. The two agree for every kind of numbers,
because the spectra with a single term are those of the constellation with two points.
-/

namespace WifiLink

variable {α : Type} [Scalar α]

/-- The bound has a single term just for BPSK. -/
theorem DistanceSpectrum.nextWeight_eq_none_iff {entry : Int × CodeRate × DistanceSpectrum}
    (member : entry ∈ table) :
    entry.2.2.nextWeight = none ↔ entry.1 = 2 := by
  revert entry
  decide

section SurvivalAt

variable {tx : Transmission α} {size : Int} {codeRate : CodeRate} {spectrum : DistanceSpectrum}
  {snr rate : α} {bits : Int}

/-- For a listed code both ways are one calculation, whether it has an answer or a fault. -/
theorem survivalAt_eq_direct
    (listed : (size, codeRate, spectrum) ∈ DistanceSpectrum.table) :
    survivalAt tx size snr bits rate spectrum =
      if size = 2 then
        bpskSurvival snr bits tx.width rate spectrum.freeDistance spectrum.freeWeight
      else qamSurvival snr bits tx.width rate size spectrum := by
  unfold survivalAt bitErrorRate
  split_ifs with two
  · have single : spectrum.nextWeight = none :=
      (DistanceSpectrum.nextWeight_eq_none_iff listed).mpr two
    have same : spectrum = ⟨spectrum.freeDistance, spectrum.freeWeight, none⟩ := by
      rw [← single]
    rw [bpskSurvival, ← same]
  · rw [qamSurvival]

private theorem checkSnr_of_bitEnergyRatio {width energy : α}
    (known : bitEnergyRatio snr width rate = .ok energy) : checkSnr snr = .ok () := by
  unfold bitEnergyRatio at known
  split_ifs at known with ratio
  exact if_neg ratio

/-- A survival is calculated from a ratio that passes the check. -/
theorem checkSnr_of_survivalAt {probability : α}
    (survives : survivalAt tx size snr bits rate spectrum = .ok probability) :
    checkSnr snr = .ok () := by
  obtain ⟨errorRate, rated, _⟩ := bind_eq_ok_iff.mp survives
  by_cases two : size = 2
  · rw [bitErrorRate, if_pos two] at rated
    obtain ⟨energy, known, _⟩ := bind_eq_ok_iff.mp rated
    exact checkSnr_of_bitEnergyRatio known
  · rw [bitErrorRate, if_neg two, qamErrorRate] at rated
    split_ifs at rated
    obtain ⟨energy, known, _⟩ := bind_eq_ok_iff.mp rated
    exact checkSnr_of_bitEnergyRatio known

end SurvivalAt

/-- What an estimate with a probability is made of is all that one needs. -/
theorem estimateWith_eq_modeled_iff_survivalAt
    {tx : Transmission α} {rate : Except (Fault α) α} {chunk : Chunk α} {probability : α} :
    estimateWith tx rate chunk = .ok (.modeled probability) ↔
      chunk.mode.isCodedOfdm ∧ ∃ bits spectrum value,
        chunk.bits = .integer bits ∧ 0 ≤ bits ∧
        (DistanceSpectrum.lookup chunk.mode.constellation (.rate chunk.mode.codeRate) :
          Except (Fault α) DistanceSpectrum) = .ok spectrum ∧
        rate = .ok value ∧
        survivalAt tx chunk.mode.constellation chunk.snr bits value spectrum =
          .ok probability := by
  constructor
  · exact estimateWith_eq_modeled
  · rintro ⟨coded, bits, spectrum, value, bits_eq, nonneg, found, sent, survives⟩
    rw [estimateWith, checkSnr_of_survivalAt survives, ok_bind,
      bitCount_eq_ok_iff.mpr ⟨bits_eq, nonneg⟩, ok_bind, if_pos coded, found, ok_bind, sent,
      ok_bind, survives, ok_bind]
    rfl

/-- An estimate has a probability just where its mode is coded, its bits are counted, and the
formula of its constellation has that probability at the field's rate with the mode's code. -/
theorem estimate_eq_modeled_iff_direct
    (tx : Transmission α) (settings : Settings α) (chunk : Chunk α) (probability : α) :
    estimate tx settings chunk = .ok (.modeled probability) ↔
      chunk.mode.isCodedOfdm ∧ ∃ bits spectrum rate,
        chunk.bits = .integer bits ∧ 0 ≤ bits ∧
        (DistanceSpectrum.lookup chunk.mode.constellation (.rate chunk.mode.codeRate) :
          Except (Fault α) DistanceSpectrum) = .ok spectrum ∧
        tx.effectiveRate chunk.mode chunk.station settings = .ok rate ∧
        (chunk.mode.constellation = 2 →
          bpskSurvival chunk.snr bits tx.width rate spectrum.freeDistance spectrum.freeWeight =
            .ok probability) ∧
        (chunk.mode.constellation ≠ 2 →
          qamSurvival chunk.snr bits tx.width rate chunk.mode.constellation
              ⟨spectrum.freeDistance, spectrum.freeWeight, spectrum.nextWeight⟩ =
            .ok probability) := by
  rw [estimate, estimateWith_eq_modeled_iff_survivalAt]
  refine and_congr_right fun _ => exists_congr fun bits => exists_congr fun spectrum =>
    exists_congr fun rate => and_congr_right fun _ => and_congr_right fun _ =>
      and_congr_right fun found => and_congr_right fun _ => ?_
  rw [survivalAt_eq_direct (DistanceSpectrum.lookup_eq_ok_iff.mp found)]
  split_ifs with two <;> simp [two]

end WifiLink
