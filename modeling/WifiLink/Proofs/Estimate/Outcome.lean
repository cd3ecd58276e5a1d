import WifiLink.Proofs.Estimate.Basic
import WifiLink.Proofs.Exact.GaussianTail

/-!
# Outcomes of a query

A query is no valid question, or its mode is not modeled, or something that the estimate needs is
missing, or there is a probability. Which of the four holds is said here without reference to the
order in which a query is looked at.
-/

namespace WifiLink

open Exact

variable {tail : ErrorTail} {tx : Transmission (Exact tail)}
  {settings : Settings (Exact tail)} {chunk : Chunk (Exact tail)}

/-- The ratio is a number that is not below zero, and the bits are counted by a natural number. -/
def ValidQuestion (chunk : Chunk (Exact tail)) : Prop :=
  0.0 ≤ chunk.snr ∧ ∃ count : ℕ, chunk.bits = .integer count

/-- What keeps a coded mode from having an estimate. The rate of a header is taken with one stream
at the lesser of the channel and the header width, that of a payload at the full width with the
streams and the guard interval of the transmission. -/
inductive Unanswerable
    (tx : Transmission (Exact tail)) (settings : Settings (Exact tail))
    (chunk : Chunk (Exact tail)) : Prop
  | unlisted :
      (∀ spectrum, (chunk.mode.constellation, chunk.mode.codeRate, spectrum) ∉
        DistanceSpectrum.table) → Unanswerable tx settings chunk
  | unknownStation :
      tx.isMultiUser → chunk.station ≠ commonStation →
        (∀ entry ∈ tx.stations, entry.1 ≠ chunk.station) → Unanswerable tx settings chunk
  | headerWidth :
      tx.SentAsHeader chunk.mode chunk.station → chunk.mode.modulation.isTabled →
        ¬TakesWidth chunk.mode.modulation (Scalar.least tx.width settings.headerWidth) →
          Unanswerable tx settings chunk
  | payloadWidth :
      ¬tx.SentAsHeader chunk.mode chunk.station → chunk.mode.modulation.isTabled →
        ¬TakesWidth chunk.mode.modulation tx.width → Unanswerable tx settings chunk
  | noStream :
      ¬tx.SentAsHeader chunk.mode chunk.station → tx.streams < 1 →
        Unanswerable tx settings chunk
  | negativeTime :
      ¬tx.SentAsHeader chunk.mode chunk.station → chunk.mode.modulation.isTabled →
        symbolNanoseconds chunk.mode.modulation tx.guardInterval < 0 →
          Unanswerable tx settings chunk

private theorem width_pos {w : ℝ} (width : tx.width = finite w) : 0 < w := by
  have above := tx.width_positive
  rw [width, finite_nonpos_iff] at above
  exact not_le.mp above

/-! ## Questions -/

private theorem refused_of_not_validQuestion (invalid : ¬ValidQuestion chunk) :
    Refused (estimate tx settings chunk) := by
  rw [ValidQuestion, zero_eq_finite] at invalid
  by_cases refusable : Scalar.isNaN chunk.snr ∨ chunk.snr < 0.0
  · have checked : checkSnr chunk.snr = .error (.invalidSnr chunk.snr) := if_pos refusable
    rw [estimate, estimateWith, checked, error_bind]
    exact refused_error rfl
  · obtain ⟨snr, ratio⟩ := (not_refusable_iff chunk.snr).mp refusable
    have uncounted : ¬∃ count : ℕ, chunk.bits = .integer count := by
      intro counted
      apply invalid
      rw [ratio]
      exact ⟨zero_le_extend snr, counted⟩
    have refused : Refused (bitCount chunk.bits : Except (Fault (Exact tail)) Int) := by
      cases bits : chunk.bits with
      | integer count =>
          have negative : count < 0 := by
            by_contra nonneg
            obtain ⟨n, rfl⟩ := Int.eq_ofNat_of_zero_le (not_lt.mp nonneg)
            exact uncounted ⟨n, bits⟩
          rw [bitCount, if_pos negative]
          exact refused_error rfl
      | _ => exact refused_error rfl
    rw [estimate, estimateWith, ratio, checkSnr_extend, ok_bind]
    exact refused.bind _

section Valid

variable (valid : ValidQuestion chunk)
include valid

private theorem exists_extend_of_validQuestion : ∃ snr : ENNReal, chunk.snr = extend snr := by
  rw [← not_refusable_iff, ← nonneg_iff_not_refusable]
  exact valid.1

/-- A valid question is answered from spectrum and rate. -/
theorem estimate_of_validQuestion :
    ∃ count : ℕ, chunk.bits = .integer count ∧
      estimate tx settings chunk =
        if chunk.mode.isCodedOfdm then do
          let spectrum ←
            DistanceSpectrum.lookup chunk.mode.constellation (.rate chunk.mode.codeRate)
          let rate ← tx.effectiveRate chunk.mode chunk.station settings
          return .modeled
            (← survivalAt tx chunk.mode.constellation chunk.snr count rate spectrum)
        else return .unmodeled chunk.mode.modulation := by
  obtain ⟨snr, ratio⟩ := exists_extend_of_validQuestion valid
  obtain ⟨count, bits⟩ := valid.2
  refine ⟨count, bits, ?_⟩
  rw [estimate, estimateWith, ratio, checkSnr_extend, ok_bind,
    bitCount_eq_ok_iff.mpr ⟨bits, Int.natCast_nonneg count⟩, ok_bind]

theorem estimate_of_not_coded (uncoded : ¬chunk.mode.isCodedOfdm) :
    estimate tx settings chunk = .ok (.unmodeled chunk.mode.modulation) := by
  obtain ⟨count, _, equation⟩ := @estimate_of_validQuestion tail tx settings chunk valid
  rw [equation, if_neg uncoded]
  rfl

variable (coded : chunk.mode.isCodedOfdm)
include coded

private theorem refused_of_unlisted
    (unlisted : ∀ spectrum, (chunk.mode.constellation, chunk.mode.codeRate, spectrum) ∉
      DistanceSpectrum.table) :
    Refused (estimate tx settings chunk) := by
  obtain ⟨count, _, equation⟩ := @estimate_of_validQuestion tail tx settings chunk valid
  rw [equation, if_pos coded]
  exact (DistanceSpectrum.refused_lookup unlisted).bind _

private theorem refused_of_refused_rate
    (refused : Refused (tx.effectiveRate chunk.mode chunk.station settings)) :
    Refused (estimate tx settings chunk) := by
  obtain ⟨count, _, equation⟩ := @estimate_of_validQuestion tail tx settings chunk valid
  by_cases listed : ∃ spectrum, (chunk.mode.constellation, chunk.mode.codeRate, spectrum) ∈
      DistanceSpectrum.table
  · obtain ⟨spectrum, member⟩ := listed
    rw [equation, if_pos coded, DistanceSpectrum.lookup_eq_ok_iff.mpr member, ok_bind]
    exact refused.bind _
  · exact refused_of_unlisted valid coded (not_exists.mp listed)

/-- A rate below zero is refused when the energy is asked for. -/
theorem refused_of_negative_rate
    {rate : ℝ} (negative : rate < 0)
    (sent : tx.effectiveRate chunk.mode chunk.station settings = .ok (finite rate)) :
    Refused (estimate tx settings chunk) := by
  obtain ⟨count, _, equation⟩ := @estimate_of_validQuestion tail tx settings chunk valid
  obtain ⟨snr, ratio⟩ := exists_extend_of_validQuestion valid
  by_cases listed : ∃ spectrum, (chunk.mode.constellation, chunk.mode.codeRate, spectrum) ∈
      DistanceSpectrum.table
  · obtain ⟨spectrum, member⟩ := listed
    have slow : (finite rate : Exact tail) ≤ 0.0 := (finite_nonpos_iff rate).mpr negative.le
    have energy : bitEnergyRatio chunk.snr tx.width (finite rate) = .error .rateNotPositive := by
      rw [bitEnergyRatio, ratio, if_neg ((not_refusable_iff _).mpr ⟨snr, rfl⟩),
        if_neg tx.width_positive, if_pos slow]
    have constellation := DistanceSpectrum.constellation_of_mem_table member
    rw [equation, if_pos coded, DistanceSpectrum.lookup_eq_ok_iff.mpr member, ok_bind, sent,
      ok_bind, survivalAt, bitErrorRate_of_fault constellation energy]
    exact refused_error rfl
  · exact refused_of_unlisted valid coded (not_exists.mp listed)

/-- A listed mode with a positive rate on a channel of real width has a probability. -/
theorem exists_probability_of_rate
    {spectrum : DistanceSpectrum}
    (listed : (chunk.mode.constellation, chunk.mode.codeRate, spectrum) ∈ DistanceSpectrum.table)
    {w rate : ℝ} (width : tx.width = finite w) (positive : 0 < rate)
    (sent : tx.effectiveRate chunk.mode chunk.station settings = .ok (finite rate)) :
    ∃ probability : ℝ, 0 ≤ probability ∧ probability ≤ 1 ∧
      estimate tx settings chunk = .ok (.modeled (finite probability)) := by
  obtain ⟨snr, ratio⟩ := exists_extend_of_validQuestion valid
  obtain ⟨count, bits⟩ := valid.2
  have energy := energyAt_of_rate width (width_pos width) sent positive snr
  rw [← ratio] at energy
  obtain ⟨nonneg, le_one⟩ := survivalShare_mem listed tail
    (energyRatio snr (ENNReal.ofReal w) (ENNReal.ofReal rate)) count
  exact ⟨_, nonneg, le_one,
    estimateWith_eq_modeled_iff.mpr ⟨spectrum, count, _, ⟨coded, listed, bits, energy⟩, rfl⟩⟩

end Valid

/-! ## Coded modes -/

section Coded

variable {w h : ℝ} (width : tx.width = finite w) (header : settings.headerWidth = finite h)

include header in
private theorem headerWidth_pos (accepted : settings.checked = .ok settings) : 0 < h := by
  by_contra nonpos
  have narrow : settings.headerWidth ≤ 0.0 := by
    rw [header, finite_nonpos_iff]
    exact not_lt.mp nonpos
  rw [Settings.checked, if_pos narrow] at accepted
  cases accepted

include width header in
private theorem least_width : Scalar.least tx.width settings.headerWidth = finite (min w h) := by
  rw [width, header, least_finite]

include width header in
private theorem headerWidth_finite : tx.headerWidth settings = finite (min w h) :=
  least_width width header

variable (valid : ValidQuestion chunk) (coded : chunk.mode.isCodedOfdm)
include valid coded

private theorem refused_of_unknownStation
    (many : tx.isMultiUser) (individual : chunk.station ≠ commonStation)
    (absent : ∀ entry ∈ tx.stations, entry.1 ≠ chunk.station) :
    Refused (estimate tx settings chunk) := by
  have unknown : ¬tx.Knows chunk.station := by
    intro known
    obtain ⟨entry, member, equality⟩ := known many
    exact absent entry member equality
  have payload : ¬tx.SentAsHeader chunk.mode chunk.station := by
    rintro (⟨_, common⟩ | ⟨own, found, _⟩)
    · exact individual common
    · rw [Transmission.modeFor_of_not_knows unknown] at found
      cases found
  apply refused_of_refused_rate valid coded
  rw [Transmission.effectiveRate_unknown unknown payload]
  exact refused_error rfl

/-- A payload of an unknown station has no rate, and that of a known one has its own. -/
theorem refused_of_payload
    (payload : ¬tx.SentAsHeader chunk.mode chunk.station)
    (refused : Refused (chunk.mode.phyRate tx.width tx.streams tx.guardInterval)) :
    Refused (estimate tx settings chunk) := by
  apply refused_of_refused_rate valid coded
  by_cases known : tx.Knows chunk.station
  · rw [Transmission.effectiveRate_payload coded known payload]
    exact refused
  · rw [Transmission.effectiveRate_unknown known payload]
    exact refused_error rfl

include width in
private theorem refused_of_negativeTime
    (payload : ¬tx.SentAsHeader chunk.mode chunk.station)
    (tabled : chunk.mode.modulation.isTabled)
    (time : symbolNanoseconds chunk.mode.modulation tx.guardInterval < 0) :
    Refused (estimate tx settings chunk) := by
  by_cases lacking : tx.streams < 1 ∨
      (chunk.mode.modulation.isTabled ∧ ¬TakesWidth chunk.mode.modulation tx.width)
  · apply refused_of_payload valid coded payload
    rw [width] at lacking ⊢
    exact WifiMode.refused_phyRate (width_pos width) lacking
  by_cases listed : ∃ spectrum, (chunk.mode.constellation, chunk.mode.codeRate, spectrum) ∈
      DistanceSpectrum.table
  · obtain ⟨spectrum, member⟩ := listed
    rw [not_or, not_and, not_not, not_lt] at lacking
    have points := two_le_constellation (DistanceSpectrum.constellation_of_mem_table member)
    have takes := lacking.2 tabled
    rw [width] at takes
    obtain ⟨rate, negative, rate_eq⟩ :=
      WifiMode.phyRate_of_negative_time (width_pos width) points lacking.1 tabled takes time
    rw [← width] at rate_eq
    by_cases known : tx.Knows chunk.station
    · rw [← Transmission.effectiveRate_payload coded known payload settings] at rate_eq
      exact refused_of_negative_rate valid coded negative rate_eq
    · apply refused_of_refused_rate valid coded
      rw [Transmission.effectiveRate_unknown known payload]
      exact refused_error rfl
  · exact refused_of_unlisted valid coded (not_exists.mp listed)

variable (accepted : settings.checked = .ok settings)
include width header accepted

private theorem refused_of_unanswerable (unanswerable : Unanswerable tx settings chunk) :
    Refused (estimate tx settings chunk) := by
  have wide := width_pos width
  have least : 0 < min w h := lt_min wide (headerWidth_pos header accepted)
  cases unanswerable with
  | unlisted absent => exact refused_of_unlisted valid coded absent
  | unknownStation many individual absent =>
      exact refused_of_unknownStation valid coded many individual absent
  | headerWidth sent tabled untaken =>
      apply refused_of_refused_rate valid coded
      rw [least_width width header] at untaken
      rw [Transmission.effectiveRate_header sent, headerWidth_finite width header]
      exact WifiMode.refused_phyRate least (Or.inr ⟨tabled, untaken⟩)
  | payloadWidth payload tabled untaken =>
      apply refused_of_payload valid coded payload
      rw [width] at untaken ⊢
      exact WifiMode.refused_phyRate wide (Or.inr ⟨tabled, untaken⟩)
  | noStream payload none =>
      apply refused_of_payload valid coded payload
      rw [width]
      exact WifiMode.refused_phyRate wide (Or.inl none)
  | negativeTime payload tabled time =>
      exact refused_of_negativeTime width valid coded payload tabled time

private theorem exists_probability_of_answerable
    (answerable : ¬Unanswerable tx settings chunk)
    (lasting : chunk.mode.modulation.isTabled →
      symbolNanoseconds chunk.mode.modulation tx.guardInterval ≠ 0) :
    ∃ probability : ℝ, 0 ≤ probability ∧ probability ≤ 1 ∧
      estimate tx settings chunk = .ok (.modeled (finite probability)) := by
  have wide := width_pos width
  have least : 0 < min w h := lt_min wide (headerWidth_pos header accepted)
  obtain ⟨spectrum, listed⟩ : ∃ spectrum,
      (chunk.mode.constellation, chunk.mode.codeRate, spectrum) ∈ DistanceSpectrum.table := by
    by_contra absent
    exact answerable (.unlisted (not_exists.mp absent))
  have points := two_le_constellation (DistanceSpectrum.constellation_of_mem_table listed)
  suffices sent : ∃ rate : ℝ, 0 < rate ∧
      tx.effectiveRate chunk.mode chunk.station settings = .ok (finite rate) by
    obtain ⟨rate, positive, sent⟩ := sent
    exact exists_probability_of_rate valid coded listed width positive sent
  by_cases asHeader : tx.SentAsHeader chunk.mode chunk.station
  · rw [Transmission.effectiveRate_header asHeader, headerWidth_finite width header]
    apply WifiMode.phyRate_of_lasting least points le_rfl coded
    · intro tabled
      by_contra untaken
      rw [← least_width width header] at untaken
      exact answerable (.headerWidth asHeader tabled untaken)
    · intro _
      unfold symbolNanoseconds ModulationClass.usefulNanoseconds
      split <;> norm_num
  · have known : tx.Knows chunk.station := by
      by_contra unknown
      rw [Transmission.Knows, Classical.not_imp] at unknown
      obtain ⟨many, absent⟩ := unknown
      refine answerable (.unknownStation many ?_ fun entry member equality =>
        absent ⟨entry, member, equality⟩)
      intro common
      exact asHeader (Or.inl ⟨many, common⟩)
    rw [Transmission.effectiveRate_payload coded known asHeader, width]
    apply WifiMode.phyRate_of_lasting wide points _ coded
    · intro tabled
      by_contra untaken
      rw [← width] at untaken
      exact answerable (.payloadWidth asHeader tabled untaken)
    · intro tabled
      by_contra short
      have negative := lt_of_le_of_ne (not_lt.mp short) (lasting tabled)
      exact answerable (.negativeTime asHeader tabled negative)
    · by_contra none
      exact answerable (.noStream asHeader (not_le.mp none))

end Coded

/-! ## A sample transmission -/

section Sample

variable (tail) in
/-- The slowest high-throughput mode. -/
noncomputable def htMode : WifiMode (Exact tail) where
  name := "HtMcs0"
  modulation := .ht
  constellation := 2
  codeRate := .half
  fixedRate := finite 0

variable (tail) in
/-- A transmission to one station on 20 MHz. -/
noncomputable def htTransmission (streams guardInterval : Int) : Transmission (Exact tail) where
  width := finite 20
  stations := [(commonStation, htMode tail)]
  isMultiUser := false
  streams := streams
  guardInterval := guardInterval
  width_positive := WifiMode.not_twenty_nonpos
  stations_nonempty := List.cons_ne_nil _ _

/-- Bits of its payload. -/
noncomputable def htChunk (snr : Exact tail) (bits : Int) : Chunk (Exact tail) where
  mode := htMode tail
  snr := snr
  bits := .integer bits

private theorem standard_headerWidth :
    (Settings.standard : Settings (Exact tail)).headerWidth = finite 20 := by
  simp only [Settings.standard, ofScientific_eq]
  norm_num

theorem standard_checked :
    (Settings.standard : Settings (Exact tail)).checked = .ok .standard := by
  simp only [Settings.checked, Settings.standard, ofScientific_eq, finite_le_finite,
    finite_lt_finite]
  norm_num

theorem htChunk_valid {snr : ℝ} (nonneg : 0 ≤ snr) (bits : ℕ) :
    ValidQuestion (htChunk (finite snr : Exact tail) bits) := by
  refine ⟨?_, bits, rfl⟩
  rw [zero_eq_finite]
  exact (finite_le_finite _ _).mpr nonneg

private theorem htTransmission_answerable
    {streams guardInterval : Int} (some : 1 ≤ streams) (nonneg : 0 ≤ guardInterval)
    (snr : Exact tail) (bits : Int) :
    ¬Unanswerable (htTransmission tail streams guardInterval) .standard (htChunk snr bits) := by
  have payload : ¬(htTransmission tail streams guardInterval).SentAsHeader
      (htMode tail) commonStation := by
    rintro (⟨many, _⟩ | ⟨own, found, differs⟩)
    · cases many
    · cases found
      exact differs (by simp [htTransmission, htMode, WifiMode.sameAs])
  have listed : (2, CodeRate.half, DistanceSpectrum.half) ∈ DistanceSpectrum.table := by
    decide
  intro unanswerable
  cases unanswerable with
  | unlisted absent => exact absent _ listed
  | unknownStation many => cases many
  | headerWidth sent => exact payload sent
  | payloadWidth _ _ untaken =>
      apply untaken
      right
      simp only [htTransmission, htChunk, htMode, subcarrierTable, ofScientific_eq,
        List.map_cons, List.mem_cons]
      left
      norm_num
  | noStream _ none => exact absurd some (not_le.mpr none)
  | negativeTime _ _ time =>
      have lasts : (0 : Int) < 3200 + guardInterval := by omega
      exact absurd time (not_lt.mpr lasts.le)

theorem exists_probability_htChunk
    {streams guardInterval : Int} (some : 1 ≤ streams) (nonneg : 0 ≤ guardInterval)
    {snr : ℝ} (ratio : 0 ≤ snr) (bits : ℕ) :
    ∃ probability : Exact tail,
      estimate (htTransmission tail streams guardInterval) .standard (htChunk (finite snr) bits) =
        .ok (.modeled probability) := by
  have lasts : (0 : Int) < 3200 + guardInterval := by omega
  have coded : (htMode tail).isCodedOfdm := rfl
  obtain ⟨probability, _, _, equation⟩ :=
    exists_probability_of_answerable rfl standard_headerWidth (htChunk_valid ratio bits) coded
      standard_checked (htTransmission_answerable some nonneg _ _) fun _ => lasts.ne'
  exact ⟨finite probability, equation⟩

end Sample

/-- On channels of real width, an invalid question is refused; else the mode is reported as not
modeled just when its class is older than the coded ones; else the question is refused just when
something that the estimate needs is missing; and else there is a probability. Only a guard
interval that cancels the time of a symbol has another outcome. -/
theorem estimate_outcome
    (tx : Transmission (Exact tail)) (settings : Settings (Exact tail))
    (chunk : Chunk (Exact tail)) {w h : ℝ}
    (width : tx.width = finite w) (header : settings.headerWidth = finite h)
    (accepted : settings.checked = .ok settings)
    (lasting : chunk.mode.modulation.isTabled →
      symbolNanoseconds chunk.mode.modulation tx.guardInterval ≠ 0) :
    (¬ValidQuestion chunk → Refused (estimate tx settings chunk)) ∧
    (ValidQuestion chunk →
      (∀ modulation, estimate tx settings chunk = .ok (.unmodeled modulation) ↔
        modulation = chunk.mode.modulation ∧
          chunk.mode.modulation.generation < ModulationClass.erpOfdm.generation) ∧
      (ModulationClass.erpOfdm.generation ≤ chunk.mode.modulation.generation →
        (Refused (estimate tx settings chunk) ↔ Unanswerable tx settings chunk) ∧
        (¬Unanswerable tx settings chunk →
          ∃ probability : ℝ, 0 ≤ probability ∧ probability ≤ 1 ∧
            estimate tx settings chunk = .ok (.modeled (finite probability))))) := by
  have coded_iff : chunk.mode.isCodedOfdm ↔
      ModulationClass.erpOfdm.generation ≤ chunk.mode.modulation.generation :=
    decide_eq_true_iff
  have refused (coded : chunk.mode.isCodedOfdm) (valid : ValidQuestion chunk) :=
    refused_of_unanswerable width header valid coded accepted
  have answered (coded : chunk.mode.isCodedOfdm) (valid : ValidQuestion chunk)
      (answerable : ¬Unanswerable tx settings chunk) :=
    exists_probability_of_answerable width header valid coded accepted answerable lasting
  refine ⟨refused_of_not_validQuestion, fun valid => ⟨?_, ?_⟩⟩
  · intro modulation
    rw [← not_le, ← coded_iff]
    by_cases coded : chunk.mode.isCodedOfdm
    · constructor
      · intro equation
        by_cases unanswerable : Unanswerable tx settings chunk
        · have turnedDown := refused coded valid unanswerable
          rw [equation] at turnedDown
          exact absurd turnedDown (not_refused_ok _)
        · obtain ⟨probability, _, _, modeled⟩ := answered coded valid unanswerable
          rw [equation] at modeled
          cases modeled
      · rintro ⟨_, uncoded⟩
        exact absurd coded uncoded
    · rw [estimate_of_not_coded valid coded]
      constructor
      · rintro ⟨⟩
        exact ⟨rfl, coded⟩
      · rintro ⟨rfl, _⟩
        rfl
  · intro late
    have coded := coded_iff.mpr late
    refine ⟨⟨?_, refused coded valid⟩, answered coded valid⟩
    intro turnedDown
    by_contra answerable
    obtain ⟨probability, _, _, equation⟩ := answered coded valid answerable
    rw [equation] at turnedDown
    exact not_refused_ok _ turnedDown

/-- A payload of the sample transmission has the outcome of the last case. -/
theorem htTransmission_outcome :
    ∃ probability : ℝ, 0 ≤ probability ∧ probability ≤ 1 ∧
      estimate (htTransmission gaussianTail 1 800) .standard (htChunk (finite 1) 8) =
        .ok (.modeled (finite probability)) := by
  have outcome := estimate_outcome (htTransmission gaussianTail 1 800) .standard
    (htChunk (finite 1) 8) rfl standard_headerWidth standard_checked
    fun _ => by decide
  have valid : ValidQuestion (htChunk (finite 1 : Exact gaussianTail) 8) :=
    htChunk_valid zero_le_one 8
  exact ((outcome.2 valid).2 (by decide)).2 (htTransmission_answerable le_rfl (by decide) _ _)

end WifiLink
