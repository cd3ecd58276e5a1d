import WifiLink.Proofs.BitError
import WifiLink.Proofs.Exact.GaussianTail

/-!
# Outcomes of a bit error rate

A bit error rate is refused, or it is a share of at most one half, or it is no number. The checks
of ratio, width and rate leave the third outcome open: they let through a width or a rate that is
no number, and numbers whose energy per bit is none.
-/

namespace WifiLink

open Exact

variable {tail : ErrorTail}

/-- The constellation is in use, the ratio is a number that is not below zero, and neither width
nor rate is turned down. -/
structure ChecksPass (snr : Exact tail) (size : Int) (width rate : Exact tail) : Prop where
  constellation : size ∈ constellationSizes
  ratio : 0.0 ≤ snr
  width : ¬width ≤ 0.0
  rate : ¬rate ≤ 0.0

section Outcome

variable {snr width rate : Exact tail} {size : Int}

private theorem refused_bitEnergyRatio
    (unchecked : ¬(0.0 ≤ snr ∧ ¬width ≤ 0.0 ∧ ¬rate ≤ 0.0)) :
    Refused (bitEnergyRatio snr width rate) := by
  rw [nonneg_iff_not_refusable] at unchecked
  unfold bitEnergyRatio
  split_ifs with ratio narrow slow
  · exact refused_error rfl
  · exact refused_error rfl
  · exact refused_error rfl
  · exact absurd ⟨ratio, narrow, slow⟩ unchecked

private theorem refused_bitErrorRate (unchecked : ¬ChecksPass snr size width rate) :
    Refused (bitErrorRate snr size width rate) := by
  by_cases member : size ∈ constellationSizes
  · have turned : ¬(0.0 ≤ snr ∧ ¬width ≤ 0.0 ∧ ¬rate ≤ 0.0) := fun checked =>
      unchecked ⟨member, checked.1, checked.2.1, checked.2.2⟩
    obtain ⟨fault, failed, refuses⟩ := refused_bitEnergyRatio turned
    rw [bitErrorRate_of_fault member failed]
    exact refused_error refuses
  · have many : size ≠ 2 := by
      rintro rfl
      exact member (by decide)
    rw [bitErrorRate, if_neg many, qamErrorRate, if_pos (.inl member)]
    exact refused_error rfl

private theorem bitErrorRate_of_missing (checked : ChecksPass snr size width rate)
    (missing : EnergyMissing snr width rate) :
    bitErrorRate snr size width rate = .ok notANumber :=
  bitErrorRate_of_no_energy checked.constellation
    (bitEnergyRatio_of_missing ((nonneg_iff_not_refusable snr).mp checked.ratio) checked.width
      checked.rate missing)

private theorem exists_share_of_not_missing (checked : ChecksPass snr size width rate)
    (known : ¬EnergyMissing snr width rate) :
    ∃ share : ℝ, 0 ≤ share ∧ share ≤ 1 / 2 ∧
      bitErrorRate snr size width rate = .ok (finite share) := by
  obtain ⟨s, w, r, _, _, _, _, energy⟩ := exists_bitEnergyRatio_eq_extend
    ((nonneg_iff_not_refusable snr).mp checked.ratio) checked.width checked.rate known
  exact ⟨_, errorShare_nonneg checked.constellation tail _,
    errorShare_le_half checked.constellation tail _,
    bitErrorRate_of_energy checked.constellation energy⟩

end Outcome

/-- A bit error rate is refused just where a check fails. Where all pass, it is no number if the
energy per bit is none, and a share of at most one half otherwise. -/
theorem bitErrorRate_outcome (snr : Exact tail) (size : Int) (width rate : Exact tail) :
    (Refused (bitErrorRate snr size width rate) ↔ ¬ChecksPass snr size width rate) ∧
      (bitErrorRate snr size width rate = .ok notANumber ↔
        ChecksPass snr size width rate ∧ EnergyMissing snr width rate) ∧
      ((∃ share : ℝ, 0 ≤ share ∧ share ≤ 1 / 2 ∧
          bitErrorRate snr size width rate = .ok (finite share)) ↔
        ChecksPass snr size width rate ∧ ¬EnergyMissing snr width rate) := by
  by_cases checked : ChecksPass snr size width rate
  · by_cases missing : EnergyMissing snr width rate
    · rw [bitErrorRate_of_missing checked missing]
      refine ⟨iff_of_false (not_refused_ok _) (not_not.mpr checked),
        iff_of_true rfl ⟨checked, missing⟩, iff_of_false ?_ fun both => both.2 missing⟩
      rintro ⟨share, _, _, equal⟩
      cases equal
    · obtain ⟨share, nonneg, half, equation⟩ := exists_share_of_not_missing checked missing
      rw [equation]
      exact ⟨iff_of_false (not_refused_ok _) (not_not.mpr checked),
        iff_of_false nofun fun both => missing both.2,
        iff_of_true ⟨share, nonneg, half, rfl⟩ ⟨checked, missing⟩⟩
  · have refused := refused_bitErrorRate checked
    have unanswered (answer : Exact tail) : bitErrorRate snr size width rate ≠ .ok answer :=
      fun answered => not_refused_of_eq_ok answered refused
    refine ⟨iff_of_true refused checked, iff_of_false (unanswered _) fun both => checked both.1,
      iff_of_false ?_ fun both => checked both.1⟩
    rintro ⟨share, _, _, answered⟩
    exact unanswered _ answered

/-- A width that is no number passes, and so does silence on a channel without bounds. Neither has
an error rate. -/
theorem bitErrorRate_not_a_number :
    bitErrorRate (finite 1 : Exact gaussianTail) 2 notANumber (finite 1) = .ok notANumber ∧
      bitErrorRate (finite 0 : Exact gaussianTail) 16 (infinite false) (finite 1) =
        .ok notANumber := by
  have rate : ¬(finite 1 : Exact gaussianTail) ≤ 0.0 := by
    rw [finite_nonpos_iff]
    exact not_le.mpr one_pos
  constructor
  · have checked : ChecksPass (finite 1 : Exact gaussianTail) 2 notANumber (finite 1) :=
      ⟨by decide, by rw [zero_eq_finite]; exact zero_le_one' ℝ, not_notANumber_le _, rate⟩
    exact (bitErrorRate_outcome _ _ _ _).2.1.mpr ⟨checked, .width rfl⟩
  · have checked : ChecksPass (finite 0 : Exact gaussianTail) 16 (infinite false) (finite 1) :=
      ⟨by decide, by rw [zero_eq_finite]; exact le_refl (0 : ℝ), Bool.false_ne_true, rate⟩
    exact (bitErrorRate_outcome _ _ _ _).2.1.mpr ⟨checked, .product rfl rfl⟩

end WifiLink
