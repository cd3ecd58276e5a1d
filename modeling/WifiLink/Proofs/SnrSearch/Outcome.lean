import WifiLink.Proofs.Estimate.Outcome
import WifiLink.Proofs.SnrSearch.Failure

/-!
# Outcomes of the search

Whether the search answers depends on its settings alone, and what the answer is worth on the two
ends of the range. The search looks at neither end, so that a range which the curve of failures
does not cross is answered as one which it crosses.
-/

namespace WifiLink

open Exact

section Generic

variable {α : Type} [Scalar α]

/-- The range that is searched. -/
def Settings.range (settings : Settings α) : Bracket α :=
  ⟨settings.searchLow, settings.searchHigh⟩

/-- So many halvings are the fewest that make the range narrow enough, and they are allowed. -/
def Settings.NarrowsAfter (settings : Settings α) (halvings : ℕ) : Prop :=
  halvings ≤ settings.searchIterations.toNat ∧
    (settings.range.climbed halvings).gap ≤ settings.searchPrecision ∧
      ∀ earlier < halvings, ¬(settings.range.climbed earlier).gap ≤ settings.searchPrecision

private theorem Settings.exists_narrowsAfter_iff {settings : Settings α} :
    (∃ halvings, settings.NarrowsAfter halvings) ↔
      ∃ halvings ≤ settings.searchIterations.toNat,
        (settings.range.climbed halvings).gap ≤ settings.searchPrecision := by
  constructor
  · rintro ⟨halvings, few, narrow, _⟩
    exact ⟨halvings, few, narrow⟩
  · rintro ⟨halvings, few, narrow⟩
    have exists_narrow : ∃ halvings,
        (settings.range.climbed halvings).gap ≤ settings.searchPrecision := ⟨halvings, narrow⟩
    exact ⟨Nat.find exists_narrow, (Nat.find_min' exists_narrow narrow).trans few,
      Nat.find_spec exists_narrow, fun _ => Nat.find_min exists_narrow⟩

theorem bisect_of_narrow
    {failure : α → Except (Fault α) α} {target precision : α} {bracket : Bracket α}
    (narrow : bracket.gap ≤ precision) (steps : ℕ) :
    bisect failure target precision steps bracket = .ok bracket := by
  cases steps with
  | zero => rfl
  | succ steps => exact if_pos narrow

namespace Transmission

variable {tx : Transmission α} {settings : Settings α} {target : α} {mode : WifiMode α}

theorem searchSnr_of_mode
    (inside : 0.0 < target ∧ target < 1.0) (own : tx.modeFor commonStation = .ok mode)
    (coded : mode.isCodedOfdm) :
    tx.searchSnr settings target =
      (bisect (tx.bitFailure settings mode) target settings.searchPrecision
        settings.searchIterations.toNat settings.range >>= fun bracket =>
          if bracket.gap ≤ settings.searchPrecision then .ok bracket.low
          else .error (.searchNotConverged settings.searchIterations bracket.gap)) := by
  rw [searchSnr, if_neg (not_not.mpr inside), own, ok_bind, if_pos coded]
  rfl

/-- An answer is the lower end of a final bracket that is narrow enough. -/
theorem searchSnr_eq_ok {snr : α} (answered : tx.searchSnr settings target = .ok snr) :
    (0.0 < target ∧ target < 1.0) ∧
      ∃ mode, tx.modeFor commonStation = .ok mode ∧ mode.isCodedOfdm ∧
        ∃ final, bisect (tx.bitFailure settings mode) target settings.searchPrecision
            settings.searchIterations.toNat settings.range = .ok final ∧
          final.gap ≤ settings.searchPrecision ∧ snr = final.low := by
  by_cases inside : 0.0 < target ∧ target < 1.0
  · refine ⟨inside, ?_⟩
    rw [searchSnr, if_neg (not_not.mpr inside)] at answered
    obtain ⟨mode, own, answered⟩ := bind_eq_ok_iff.mp answered
    refine ⟨mode, own, ?_⟩
    split_ifs at answered with coded
    obtain ⟨final, ended, answered⟩ := bind_eq_ok_iff.mp answered
    split_ifs at answered with narrow
    exact ⟨coded, final, ended, narrow, (Except.ok.inj answered).symm⟩
  · rw [searchSnr, if_pos inside] at answered
    cases answered

end Transmission

end Generic

variable {tail : ErrorTail} {tx : Transmission (Exact tail)} {settings : Settings (Exact tail)}
  {target : Exact tail} {mode : WifiMode (Exact tail)}

/-! ## Accepted settings -/

section Accepted

variable (accepted : settings.checked = .ok settings)
include accepted

theorem Settings.spec_of_checked :
    (finite 0 < settings.searchLow ∧ settings.searchLow < settings.searchHigh) ∧
      ¬settings.searchPrecision ≤ finite 0 := by
  rw [checked, zero_eq_finite] at accepted
  split_ifs at accepted with _ ordered limited
  exact ⟨ordered, fun coarse => limited (Or.inl coarse)⟩

/-- The range has a real lower end above zero, and a real upper end or none. -/
theorem Settings.range_of_checked :
    ∃ bottom : ℝ, 0 < bottom ∧
      ((∃ top, bottom < top ∧ settings.range = .between bottom top) ∨
        settings.range = ⟨finite bottom, infinite false⟩) := by
  obtain ⟨⟨positive, ordered⟩, _⟩ := Settings.spec_of_checked accepted
  rw [range]
  cases low : settings.searchLow with
  | finite bottom =>
      rw [low] at positive ordered
      refine ⟨bottom, positive, ?_⟩
      cases high : settings.searchHigh with
      | finite top =>
          rw [high] at ordered
          exact Or.inl ⟨top, ordered, rfl⟩
      | infinite negative =>
          rw [high] at ordered
          have upward : negative = false := ordered
          exact Or.inr (by rw [upward])
      | notANumber =>
          rw [high] at ordered
          exact ordered.elim
  | infinite negative =>
      rw [low] at positive ordered
      have upward : negative = false := positive
      subst upward
      cases high : settings.searchHigh <;> rw [high] at ordered
      · cases ordered
      · exact absurd ordered.1 Bool.false_ne_true
      · exact ordered.elim
  | notANumber =>
      rw [low] at positive
      exact positive.elim

/-- A range without an upper end is narrow enough at once or never. -/
theorem Settings.narrow_of_unbounded
    {bottom : ℝ} (unbounded : settings.range = ⟨finite bottom, infinite false⟩)
    {bracket : Bracket (Exact tail)} (unboundedBracket : bracket.Unbounded)
    (narrow : bracket.gap ≤ settings.searchPrecision) :
    settings.range.gap ≤ settings.searchPrecision := by
  have coarse := (Settings.spec_of_checked accepted).2
  rw [unbounded]
  cases precision : settings.searchPrecision with
  | finite step =>
      rw [precision] at narrow
      exact absurd narrow (Bracket.not_narrow_of_unbounded unboundedBracket step)
  | infinite negative =>
      cases negative with
      | true =>
          rw [precision] at coarse
          exact absurd rfl coarse
      | false => exact Or.inr rfl
  | notANumber =>
      rw [precision] at narrow
      exact absurd narrow (not_le_notANumber _)

end Accepted

/-! ## The answer -/

namespace Transmission

theorem exists_real_of_inside (inside : 0.0 < target ∧ target < 1.0) :
    ∃ share : ℝ, target = finite share := by
  obtain ⟨above, below⟩ := inside
  cases target with
  | finite share => exact ⟨share, rfl⟩
  | infinite negative =>
      have upward : negative = false := above
      have downward : negative = true := below
      rw [upward] at downward
      cases downward
  | notANumber => exact above.elim

section Search

variable (accepted : settings.checked = .ok settings)
  (own : tx.modeFor commonStation = .ok mode) (coded : mode.isCodedOfdm)
include accepted own coded

/-- What the final bracket of a search says about its lower end. -/
theorem answer_of_bisect
    (antitone : Antitone tail) (inside : 0.0 < target ∧ target < 1.0)
    {final : Bracket (Exact tail)}
    (ended : bisect (tx.bitFailure settings mode) target settings.searchPrecision
      settings.searchIterations.toNat settings.range = .ok final)
    (narrow : final.gap ≤ settings.searchPrecision) :
    ∃ halvings, settings.NarrowsAfter halvings ∧
      (Pinpoints (tx.bitFailure settings mode) target settings.searchPrecision final.low ↔
        FailsTooOften (tx.bitFailure settings mode) target settings.searchLow ∧
          FailsSeldom (tx.bitFailure settings mode) target
            ((settings.range.climbed halvings).low + settings.searchPrecision)) ∧
      (FailsSeldom (tx.bitFailure settings mode) target settings.searchLow →
        final.low = settings.searchLow) ∧
      (FailsTooOften (tx.bitFailure settings mode) target settings.searchHigh →
        final.low = (settings.range.climbed halvings).low) := by
  obtain ⟨share, rfl⟩ := exists_real_of_inside inside
  have falling : Falling (tx.bitFailure settings mode) (finite share) :=
    bitFailure_falling coded own antitone share
  obtain ⟨bottom, positive, ⟨top, ordered, range⟩ | unbounded⟩ :=
    Settings.range_of_checked accepted
  · have low : settings.searchLow = finite bottom := congrArg Bracket.low range
    have high : settings.searchHigh = finite top := congrArg Bracket.high range
    rw [range] at ended
    obtain ⟨halvings, few, ⟨lower, upper, rfl, searched⟩, _⟩ :=
      Searched.exists_of_bisect falling.compares ordered ended
    rw [Bracket.gap_between] at narrow
    have reached : finite (top - (top - bottom) / 2 ^ halvings) =
        (settings.range.climbed halvings).low := by
      rw [range, low_climbed_between]
    refine ⟨halvings, ⟨few, ?_, ?_⟩, ?_, ?_, ?_⟩
    · rw [range, gap_climbed_between, ← searched.width]
      exact narrow
    · rw [range]
      exact searched.wide
    · rw [low, ← reached]
      exact searched.pinpoints_iff falling positive ordered narrow
    · rw [low]
      intro seldom
      exact congrArg finite (searched.low_eq_bottom falling positive seldom)
    · rw [high, ← reached]
      intro often
      have climbed : lower = top - (top - bottom) / 2 ^ halvings := by
        rw [← searched.width, searched.high_eq_top falling positive ordered often, sub_sub_cancel]
      exact congrArg finite climbed
  · have start : settings.range.Unbounded := Or.inl ⟨bottom, unbounded⟩
    have atOnce := Settings.narrow_of_unbounded accepted unbounded
      (Bracket.unbounded_of_bisect start ended) narrow
    obtain rfl : settings.range = final :=
      Except.ok.inj ((bisect_of_narrow atOnce _).symm.trans ended)
    exact ⟨0, ⟨Nat.zero_le _, atOnce, fun earlier fewer => absurd fewer (Nat.not_lt_zero earlier)⟩,
      Iff.rfl, fun _ => rfl, fun _ => rfl⟩

theorem exists_searchSnr_of_narrowsAfter
    (antitone : Antitone tail) (inside : 0.0 < target ∧ target < 1.0)
    (known : ∃ rate, tx.bitFailure settings mode settings.searchLow = .ok rate)
    {halvings : ℕ} (narrows : settings.NarrowsAfter halvings) :
    ∃ snr, tx.searchSnr settings target = .ok snr := by
  obtain ⟨share, rfl⟩ := exists_real_of_inside inside
  have falling : Falling (tx.bitFailure settings mode) (finite share) :=
    bitFailure_falling coded own antitone share
  obtain ⟨rate, known⟩ := known
  suffices ended : ∃ final, bisect (tx.bitFailure settings mode) (finite share)
      settings.searchPrecision settings.searchIterations.toNat settings.range = .ok final ∧
        final.gap ≤ settings.searchPrecision by
    obtain ⟨final, ended, narrow⟩ := ended
    rw [searchSnr_of_mode inside own coded, ended, ok_bind, if_pos narrow]
    exact ⟨final.low, rfl⟩
  obtain ⟨bottom, positive, ⟨top, ordered, range⟩ | unbounded⟩ :=
    Settings.range_of_checked accepted
  · have everywhere (snr : ℝ) (audible : 0 < snr) :
        ∃ rate, tx.bitFailure settings mode (finite snr) = .ok rate :=
      exists_bitFailure coded own known audible
    rw [range, narrows_iff falling everywhere positive ordered, ← range]
    exact ⟨halvings, narrows.1, narrows.2.1⟩
  · have climbed : (settings.range.climbed halvings).Unbounded :=
      Bracket.unbounded_climbed (Or.inl ⟨bottom, unbounded⟩) halvings
    have atOnce := Settings.narrow_of_unbounded accepted unbounded climbed narrows.2.1
    exact ⟨settings.range, bisect_of_narrow atOnce _, atOnce⟩

private theorem refused_searchSnr
    (antitone : Antitone tail) (inside : 0.0 < target ∧ target < 1.0)
    (known : ∃ rate, tx.bitFailure settings mode settings.searchLow = .ok rate)
    (wide : ¬∃ halvings, settings.NarrowsAfter halvings) :
    Refused (tx.searchSnr settings target) := by
  obtain ⟨share, rfl⟩ := exists_real_of_inside inside
  have falling : Falling (tx.bitFailure settings mode) (finite share) :=
    bitFailure_falling coded own antitone share
  obtain ⟨rate, known⟩ := known
  rw [Settings.exists_narrowsAfter_iff] at wide
  rw [searchSnr_of_mode inside own coded]
  obtain ⟨bottom, positive, ⟨top, ordered, range⟩ | unbounded⟩ :=
    Settings.range_of_checked accepted
  · have everywhere (snr : ℝ) (audible : 0 < snr) :
        ∃ rate, tx.bitFailure settings mode (finite snr) = .ok rate :=
      exists_bitFailure coded own known audible
    rw [range] at wide ⊢
    rw [← narrows_iff falling everywhere positive ordered] at wide
    obtain ⟨final, ended⟩ := exists_bisect_between everywhere positive ordered
    have stillWide : ¬final.gap ≤ settings.searchPrecision := fun narrow =>
      wide ⟨final, ended, narrow⟩
    rw [ended, ok_bind, if_neg stillWide]
    exact refused_error rfl
  · have start : settings.range.Unbounded := Or.inl ⟨bottom, unbounded⟩
    have loudest : ∃ rate, tx.bitFailure settings mode (infinite false) = .ok rate :=
      exists_bitFailure coded own known rfl
    rcases refused_of_unbounded start loudest refused_bitFailure_notANumber with
      refused | ⟨final, ended, unboundedFinal⟩
    · exact refused.bind _
    · have stillWide : ¬final.gap ≤ settings.searchPrecision := fun narrow =>
        wide ⟨0, Nat.zero_le _,
          Settings.narrow_of_unbounded accepted unbounded unboundedFinal narrow⟩
      rw [ended, ok_bind, if_neg stillWide]
      exact refused_error rfl

end Search

end Transmission

/-! ## A sample transmission -/

section Sample

private theorem eventMass_sixth : eventMass .twoTermTwoThirds (1 / 6) ≤ 1 / 2 := by
  have six : pairwiseMass 6 (1 / 6) ≤ 1 / 25 := by
    simp only [pairwiseMass, partialTail, binomialMass, Finset.sum_Ico_eq_sum_range,
      Finset.sum_range_succ, Finset.sum_range_zero]
    norm_num [Nat.choose]
  have seven : pairwiseMass 7 (1 / 6) ≤ 1 / 50 := by
    simp only [pairwiseMass, partialTail, binomialMass, Finset.sum_Ico_eq_sum_range,
      Finset.sum_range_succ, Finset.sum_range_zero]
    norm_num [Nat.choose]
  have sum : eventMass .twoTermTwoThirds (1 / 6) ≤
      1 * pairwiseMass 6 (1 / 6) + 16 * pairwiseMass 7 (1 / 6) := by
    refine (min_le_left _ _).trans_eq ?_
    change ((1 : Int) : ℝ) * pairwiseMass 6 _ + ((16 : Int) : ℝ) * pairwiseMass 7 _ = _
    norm_num
  linarith

/-- Two thirds of the bits of 64 points never fail more often than one half. -/
theorem bitFailure_le_half
    (coded : mode.isCodedOfdm) (points : mode.constellation = 64)
    (codeRate : mode.codeRate = .twoThirds) {snr rate : Exact tail}
    (failed : tx.bitFailure settings mode snr = .ok rate) :
    rate ≤ finite (1 / 2) := by
  obtain ⟨spectrum, energy, listed, _, rfl⟩ := (Transmission.bitFailure_eq_ok_iff coded).mp failed
  rw [points, codeRate] at listed
  have member : (64, CodeRate.twoThirds, DistanceSpectrum.twoTermTwoThirds) ∈
      DistanceSpectrum.table := by
    decide
  obtain rfl := DistanceSpectrum.eq_of_mem_table listed member
  have bits : Real.logb 2 64 = 6 := by
    rw [show (64 : ℝ) = 2 ^ (6 : ℝ) by norm_num, Real.logb_rpow two_pos (by norm_num)]
  have sixth : errorShare tail 64 energy ≤ 1 / 6 := by
    have square := sq_nonneg (1 - oneSidedShare tail 64 energy)
    rw [errorShare, if_neg (by decide), Int.cast_ofNat, bits]
    linarith
  have mass := eventMass_monotoneOn (DistanceSpectrum.regular_of_mem_table member)
    ⟨errorShare_nonneg (by decide) tail energy, errorShare_le_half (by decide) tail energy⟩
    (by norm_num : (1 / 6 : ℝ) ∈ Set.Icc 0 (1 / 2)) sixth
  have most := eventMass_sixth
  rw [points, finite_le_finite, survivalShare, pow_one]
  linarith

variable (tail) in
/-- The seventh mode of plain OFDM. -/
noncomputable def ofdmMode : WifiMode (Exact tail) where
  name := "OfdmRate48Mbps"
  modulation := .ofdm
  constellation := 64
  codeRate := .twoThirds
  fixedRate := finite 0

variable (tail) in
noncomputable def ofdmTransmission : Transmission (Exact tail) where
  width := finite 20
  stations := [(commonStation, ofdmMode tail)]
  isMultiUser := false
  streams := 1
  guardInterval := 800
  width_positive := WifiMode.not_twenty_nonpos
  stations_nonempty := List.cons_ne_nil _ _

theorem exists_bitFailure_ofdm (settings : Settings (Exact tail)) {snr : ℝ} (nonneg : 0 ≤ snr) :
    ∃ rate, (ofdmTransmission tail).bitFailure settings (ofdmMode tail) (finite snr) =
      .ok rate := by
  have twenty : (0 : ℝ) < 20 := by norm_num
  have points : 2 ≤ (ofdmMode tail).constellation := by
    change (2 : Int) ≤ 64
    decide
  have plain : ¬(ofdmMode tail).modulation.isTabled := Bool.false_ne_true
  have bitRate : (ofdmTransmission tail).bitRate settings (ofdmMode tail) =
      (ofdmMode tail).phyRate (finite 20) 1 800 := rfl
  obtain ⟨rate, positive, sent⟩ : ∃ rate : ℝ, 0 < rate ∧
      (ofdmMode tail).phyRate (finite 20) 1 800 = .ok (finite rate) :=
    WifiMode.phyRate_of_lasting twenty points le_rfl rfl
      (fun tabled => absurd tabled plain) (fun tabled => absurd tabled plain)
  rw [← bitRate] at sent
  have listed : (64, CodeRate.twoThirds, DistanceSpectrum.twoTermTwoThirds) ∈
      DistanceSpectrum.table := by
    decide
  rw [finite_eq_extend nonneg]
  exact ⟨_, (Transmission.bitFailure_eq_ok_iff rfl).mpr
    ⟨_, _, listed, energyAt_of_rate rfl twenty sent positive _, rfl⟩⟩

theorem standard_range :
    (Settings.standard : Settings (Exact tail)).range = .between 1e-25 1e25 := by
  simp only [Settings.range, Settings.standard, ofScientific_eq, Bracket.between]

theorem standard_narrows :
    ∃ halvings, (Settings.standard : Settings (Exact tail)).NarrowsAfter halvings := by
  have few : 123 ≤ (Settings.standard : Settings (Exact tail)).searchIterations.toNat := by
    change 123 ≤ 2000
    decide
  rw [Settings.exists_narrowsAfter_iff]
  refine ⟨123, few, ?_⟩
  rw [standard_range, gap_climbed_between]
  change finite _ ≤ (2e-12 : Exact tail)
  rw [ofScientific_eq, finite_le_finite]
  norm_num

end Sample

/-- With accepted settings, an answer is right just when a bit fails more often than the target
at the lower end of the range, and no more often at the place that a search ends with which only
climbs, less than a precision above the upper end. A range below the curve's crossing answers
with that place and a range above it with its lower end; an answer is refused only when the range
cannot be narrowed enough. -/
theorem searchSnr_outcome
    (antitone : Antitone tail) (tx : Transmission (Exact tail))
    (settings : Settings (Exact tail)) (accepted : settings.checked = .ok settings)
    (target : Exact tail) :
    (∀ snr, tx.searchSnr settings target = .ok snr →
      ∃ mode halvings, tx.modeFor commonStation = .ok mode ∧ settings.NarrowsAfter halvings ∧
        (Pinpoints (tx.bitFailure settings mode) target settings.searchPrecision snr ↔
          FailsTooOften (tx.bitFailure settings mode) target settings.searchLow ∧
            FailsSeldom (tx.bitFailure settings mode) target
              ((settings.range.climbed halvings).low + settings.searchPrecision)) ∧
        (FailsSeldom (tx.bitFailure settings mode) target settings.searchLow →
          snr = settings.searchLow) ∧
        (FailsTooOften (tx.bitFailure settings mode) target settings.searchHigh →
          snr = (settings.range.climbed halvings).low)) ∧
    (∀ mode, tx.modeFor commonStation = .ok mode → mode.isCodedOfdm →
      0.0 < target ∧ target < 1.0 →
        (∃ rate, tx.bitFailure settings mode settings.searchLow = .ok rate) →
          ((∃ snr, tx.searchSnr settings target = .ok snr) ↔
            ∃ halvings, settings.NarrowsAfter halvings) ∧
          (Refused (tx.searchSnr settings target) ↔
            ¬∃ halvings, settings.NarrowsAfter halvings)) := by
  constructor
  · intro snr answered
    obtain ⟨inside, mode, own, coded, final, ended, narrow, rfl⟩ :=
      Transmission.searchSnr_eq_ok answered
    obtain ⟨halvings, rest⟩ :=
      Transmission.answer_of_bisect accepted own coded antitone inside ended narrow
    exact ⟨mode, halvings, own, rest⟩
  · intro mode own coded inside known
    have answers : (∃ halvings, settings.NarrowsAfter halvings) →
        ∃ snr, tx.searchSnr settings target = .ok snr := fun ⟨_, narrows⟩ =>
      Transmission.exists_searchSnr_of_narrowsAfter accepted own coded antitone inside known narrows
    have refuses : (¬∃ halvings, settings.NarrowsAfter halvings) →
        Refused (tx.searchSnr settings target) :=
      Transmission.refused_searchSnr accepted own coded antitone inside known
    refine ⟨⟨?_, answers⟩, ⟨?_, refuses⟩⟩
    · rintro ⟨snr, answered⟩
      by_contra wide
      have refused := refuses wide
      rw [answered] at refused
      exact not_refused_ok snr refused
    · intro refused narrows
      obtain ⟨snr, answered⟩ := answers narrows
      rw [answered] at refused
      exact not_refused_ok snr refused

/-- The sample transmission never fails as often as every second bit, and is said to do so at the
lower end of the standard range. -/
theorem ofdmTransmission_search :
    (∃ snr, (ofdmTransmission gaussianTail).searchSnr .standard (finite (1 / 2)) = .ok snr) ∧
      ∀ snr, (ofdmTransmission gaussianTail).searchSnr .standard (finite (1 / 2)) = .ok snr →
        snr = Settings.standard.searchLow ∧
          ¬Pinpoints
            ((ofdmTransmission gaussianTail).bitFailure .standard (ofdmMode gaussianTail))
            (finite (1 / 2)) Settings.standard.searchPrecision snr := by
  obtain ⟨answers, exists_answer⟩ := searchSnr_outcome gaussianTail_antitone
    (ofdmTransmission gaussianTail) .standard standard_checked (finite (1 / 2))
  have low : (Settings.standard : Settings (Exact gaussianTail)).searchLow = finite 1e-25 := by
    simp only [Settings.standard, ofScientific_eq]
  have inside : (0.0 : Exact gaussianTail) < finite (1 / 2) ∧
      (finite (1 / 2) : Exact gaussianTail) < 1.0 := by
    simp only [ofScientific_eq, finite_lt_finite]
    norm_num
  have known := @exists_bitFailure_ofdm gaussianTail .standard 1e-25 (by norm_num)
  rw [← low] at known
  refine ⟨((exists_answer _ rfl rfl inside known).1).mpr standard_narrows, ?_⟩
  intro snr answered
  obtain ⟨mode, halvings, own, _, pinpoints, atBottom, _⟩ := answers snr answered
  obtain rfl : ofdmMode gaussianTail = mode := Except.ok.inj own
  obtain ⟨rate, failed⟩ := known
  have seldom : FailsSeldom
      ((ofdmTransmission gaussianTail).bitFailure .standard (ofdmMode gaussianTail))
      (finite (1 / 2)) Settings.standard.searchLow :=
    ⟨rate, failed, bitFailure_le_half rfl rfl rfl failed⟩
  refine ⟨atBottom seldom, fun pinpointed => ?_⟩
  exact not_failsTooOften_of_failsSeldom seldom (pinpoints.mp pinpointed).1

end WifiLink
