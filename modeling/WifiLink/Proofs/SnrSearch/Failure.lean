import WifiLink.Proofs.Estimate.Basic
import WifiLink.Proofs.SnrSearch.Pinpoint

/-!
# The curve of failures

How likely a payload bit fails depends on the ratio through its energy alone. Where it is known
at one ratio above zero it is known at all of them, and it falls.
-/

namespace WifiLink

open Exact

/-! ## The search's own failure probability -/

namespace Transmission

section Generic

variable {α : Type} [Scalar α]

/-- Where the rate of the bit comes from that the search asks for. -/
def bitRate (tx : Transmission α) (settings : Settings α) (mode : WifiMode α) :
    Except (Fault α) α :=
  tx.rateOn (if tx.isMultiUser then .header else .payload) mode commonStation settings

theorem bitRate_single
    {mode : WifiMode α} {width : α} {streams guardInterval : Int} (wide : ¬width ≤ 0.0)
    (settings : Settings α) :
    (single mode width streams guardInterval wide).bitRate settings mode =
      mode.phyRate width streams guardInterval :=
  rfl

theorem effectiveRate_of_modeFor
    {tx : Transmission α} {settings : Settings α} {mode : WifiMode α}
    (own : tx.modeFor commonStation = .ok mode) (reflexive : mode.sameAs mode) :
    tx.effectiveRate mode commonStation settings = tx.bitRate settings mode := by
  rw [effectiveRate, rateBasis, bitRate]
  by_cases many : tx.isMultiUser
  · rw [if_pos ⟨many, rfl⟩, if_pos many, ok_bind]
  · rw [if_neg (fun both => many both.1), if_neg many, own, ok_bind, if_pos reflexive]
    rfl

/-- The failure probability is what is missing from the success rate of a bit in the
transmission's own mode. -/
theorem bitFailure_eq_successRate
    {tx : Transmission α} {settings : Settings α} {mode : WifiMode α}
    (own : tx.modeFor commonStation = .ok mode) (reflexive : mode.sameAs mode) (snr : α) :
    tx.bitFailure settings mode snr = do
      return 1.0 - (← successRate tx settings { mode, snr, bits := .integer 1 }) := by
  rw [successRate, estimate, effectiveRate_of_modeFor own reflexive, bitFailure, bitRate]
  cases estimateWith tx _ _ <;> rfl

end Generic

variable {tail : ErrorTail} {tx : Transmission (Exact tail)} {settings : Settings (Exact tail)}
  {mode : WifiMode (Exact tail)}

section Coded

variable (coded : mode.isCodedOfdm)
include coded

theorem bitFailure_eq_ok_iff {snr rate : Exact tail} :
    tx.bitFailure settings mode snr = .ok rate ↔
      ∃ spectrum energy,
        (mode.constellation, mode.codeRate, spectrum) ∈ DistanceSpectrum.table ∧
          energyAt tx (tx.bitRate settings mode) snr = .ok (extend energy) ∧
            rate = finite (1 - survivalShare tail mode.constellation spectrum energy 1) := by
  constructor
  · intro failed
    obtain ⟨result, answered, failed⟩ := bind_eq_ok_iff.mp failed
    obtain ⟨probability, rfl⟩ := modeled_of_coded coded answered
    obtain ⟨spectrum, bits, energy, rests, rfl⟩ := estimateWith_eq_modeled_iff.mp answered
    obtain rfl : bits = 1 := by
      have counts := rests.bits_eq
      rw [Literal.integer.injEq] at counts
      exact_mod_cast counts.symm
    refine ⟨spectrum, energy, rests.listed, rests.energy_eq, ?_⟩
    rw [← Except.ok.inj failed, one_eq_finite]
    rfl
  · rintro ⟨spectrum, energy, listed, known, rfl⟩
    have answered := estimateWith_eq_modeled_iff.mpr
      ⟨spectrum, 1, energy,
        (⟨coded, listed, rfl, known⟩ :
          RestsOn tx (tx.bitRate settings mode) { mode, snr, bits := .integer 1 } _ _ _), rfl⟩
    rw [bitFailure, ← bitRate, answered, ok_bind, one_eq_finite]
    rfl

theorem bitFailure_antitone
    (antitone : Antitone tail) {snr louder rate rate' : Exact tail} (ordered : snr ≤ louder)
    (failed : tx.bitFailure settings mode snr = .ok rate)
    (failed' : tx.bitFailure settings mode louder = .ok rate') :
    rate' ≤ rate := by
  obtain ⟨spectrum, energy, listed, known, rfl⟩ := (bitFailure_eq_ok_iff coded).mp failed
  obtain ⟨spectrum', energy', listed', known', rfl⟩ := (bitFailure_eq_ok_iff coded).mp failed'
  obtain rfl := DistanceSpectrum.eq_of_mem_table listed listed'
  have more := energyAt_mono_snr ordered known known'
  have survives := survivalShare_mono_energy listed antitone 1 more
  rw [finite_le_finite]
  linarith

theorem bitFailure_compares (target : ℝ) {snr rate : Exact tail}
    (failed : tx.bitFailure settings mode snr = .ok rate) :
    finite target < rate ∨ rate ≤ finite target := by
  obtain ⟨_, _, _, _, rfl⟩ := (bitFailure_eq_ok_iff coded).mp failed
  rw [finite_lt_finite, finite_le_finite]
  exact lt_or_ge target _

variable (own : tx.modeFor commonStation = .ok mode)
include own

theorem bitRate_ne_infinite
    (points : 0 < mode.constellation) {rate : Exact tail}
    (sent : tx.bitRate settings mode = .ok rate) :
    rate ≠ infinite false := by
  rw [bitRate] at sent
  by_cases many : tx.isMultiUser
  · rw [if_pos many] at sent
    exact WifiMode.phyRate_ne_infinite points coded sent
  · rw [if_neg many, rateOn, phyRate, own, ok_bind] at sent
    exact WifiMode.phyRate_ne_infinite points coded sent

/-- Only the ratio zero may lack an energy that other ratios have. -/
theorem exists_bitFailure
    {snr rate : Exact tail} (failed : tx.bitFailure settings mode snr = .ok rate)
    {other : Exact tail} (audible : finite 0 < other) :
    ∃ rate', tx.bitFailure settings mode other = .ok rate' := by
  obtain ⟨spectrum, energy, listed, known, _⟩ := (bitFailure_eq_ok_iff coded).mp failed
  have points : 0 < mode.constellation := two_pos.trans_le
    (two_le_constellation (DistanceSpectrum.constellation_of_mem_table listed))
  obtain ⟨energy', known'⟩ := exists_energyAt
    (fun value sent => bitRate_ne_infinite coded own points sent) known audible
  exact ⟨_, (bitFailure_eq_ok_iff coded).mpr ⟨spectrum, energy', listed, known', rfl⟩⟩

theorem bitFailure_falling (antitone : Antitone tail) (target : ℝ) :
    Falling (tx.bitFailure settings mode) (finite target) where
  often_of_le := by
    rintro snr louder audible ordered ⟨rate, failed, above⟩
    obtain ⟨rate', failed'⟩ := exists_bitFailure coded own failed audible
    exact ⟨rate', failed', below_of_below_of_atMost above
      (bitFailure_antitone coded antitone ordered failed' failed)⟩
  seldom_of_le := by
    rintro snr louder audible ordered ⟨rate, failed, below⟩
    obtain ⟨rate', failed'⟩ := exists_bitFailure coded own failed
      (below_of_below_of_atMost audible ordered)
    exact ⟨rate', failed', atMost_trans
      (bitFailure_antitone coded antitone ordered failed failed') below⟩
  compares := bitFailure_compares coded target

end Coded

theorem refused_bitFailure_notANumber :
    Refused (tx.bitFailure settings mode notANumber) := by
  have missing : Scalar.isNaN (notANumber : Exact tail) := by
    rw [Scalar.isNaN, decide_eq_false (not_le_notANumber _)]
    rfl
  have checked : checkSnr (notANumber : Exact tail) = .error (.invalidSnr notANumber) :=
    if_pos (Or.inl missing)
  rw [bitFailure, estimateWith, checked]
  exact refused_error rfl

end Transmission

end WifiLink
