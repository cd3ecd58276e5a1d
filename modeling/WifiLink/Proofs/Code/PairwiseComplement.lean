import WifiLink.Proofs.Code.Majority
import WifiLink.Proofs.Code.Pairwise
import WifiLink.Proofs.Exact.GaussianTail

/-!
# Every outcome counted once

At the bit error rate `1 - p` hits and misses have changed places. The outcomes that prefer a wrong
path there are those that keep the right one at `p`, and a tie counts half on either side, so both
pairwise errors together leave out just two outcomes: that all bits are wrong, and that none is.
-/

namespace WifiLink

open Exact Finset

variable {tail : ErrorTail}

/-! ## Hits and misses exchanged -/

private theorem binomialMass_one_sub {n k : ℕ} (bound : k ≤ n) (p : ℝ) :
    binomialMass n k (1 - p) = binomialMass n (n - k) p := by
  unfold binomialMass
  rw [Nat.choose_symm bound, sub_sub_cancel, Nat.sub_sub_self bound]
  ring

private theorem partialTail_one_sub (n k : ℕ) (p : ℝ) :
    partialTail n k (1 - p) = ∑ i ∈ Ico 1 (n + 1 - k), binomialMass n i p := by
  have exchanged : ∀ i ∈ Ico k n, binomialMass n i (1 - p) = binomialMass n (n - i) p := by
    intro i member
    exact binomialMass_one_sub (mem_Ico.mp member).2.le p
  rw [partialTail, sum_congr rfl exchanged,
    sum_Ico_reflect (fun i => binomialMass n i p) k (Nat.le_succ n), Nat.add_sub_cancel_left]

/-- What a tail and the exchanged rest leave out are the two certain outcomes. -/
theorem partialTail_add_one_sub
    {n k : ℕ} (some : 1 ≤ k) (bound : k ≤ n) (p : ℝ) :
    partialTail n k p + partialTail n (n + 1 - k) (1 - p) = 1 - p ^ n - (1 - p) ^ n := by
  have rest : n + 1 - (n + 1 - k) = k := by omega
  have allHits := binomialMass_self n p
  have allMisses : binomialMass n 0 p = (1 - p) ^ n := by simp [binomialMass]
  have total : binomialMass n 0 p + ∑ i ∈ Ico 1 n, binomialMass n i p + binomialMass n n p = 1 := by
    rw [← sum_binomialMass n p, sum_range_succ, range_eq_Ico,
      sum_eq_sum_Ico_succ_bot (some.trans bound)]
  calc
    partialTail n k p + partialTail n (n + 1 - k) (1 - p) =
        (∑ i ∈ Ico 1 k, binomialMass n i p) + partialTail n k p := by
      rw [partialTail_one_sub, rest, add_comm]
    _ = ∑ i ∈ Ico 1 n, binomialMass n i p :=
      sum_Ico_consecutive _ some bound
    _ = 1 - p ^ n - (1 - p) ^ n := by
      linarith

/-! ## Pairwise errors -/

/-- Each of the two tails that a pairwise error is the mean of is the rest of the other. -/
theorem pairwiseMass_add_one_sub {d : ℕ} (positive : 0 < d) (p : ℝ) :
    pairwiseMass d p + pairwiseMass d (1 - p) = 1 - p ^ d - (1 - p) ^ d := by
  have upper := partialTail_add_one_sub (n := d) (k := (d + 1) / 2) (by omega) (by omega) p
  have lower := partialTail_add_one_sub (n := d) (k := d / 2 + 1) (by omega) (by omega) p
  rw [show d + 1 - (d + 1) / 2 = d / 2 + 1 by omega] at upper
  rw [show d + 1 - (d / 2 + 1) = (d + 1) / 2 by omega] at lower
  unfold pairwiseMass
  linarith

private theorem pairwiseMass_le_one
    {d : ℕ} (positive : 0 < d) {p : ℝ} (nonneg : 0 ≤ p) (le_one : p ≤ 1) :
    pairwiseMass d p ≤ 1 := by
  have missNonneg : 0 ≤ 1 - p := sub_nonneg.mpr le_one
  have together := pairwiseMass_add_one_sub positive p
  have exchanged := pairwiseMass_nonneg d missNonneg (sub_le_self 1 nonneg)
  have allHits := pow_nonneg nonneg d
  have allMisses := pow_nonneg missNonneg d
  linarith

/-- Where every bit is wrong there is the term alone that is left out. -/
theorem pairwiseMass_one {d : ℕ} (positive : 0 < d) : pairwiseMass d 1 = 0 := by
  have together := pairwiseMass_add_one_sub positive 1
  rw [sub_self, pairwiseMass_zero positive, zero_pow positive.ne', one_pow] at together
  linarith

/-- The pairwise errors at a bit error rate and at the rate of right bits make up all outcomes but
those in which all bits are wrong or all are right, so that each is a probability. Where the
combinations are too many to be counted, neither has an answer. -/
theorem pairwiseError_add_one_sub
    {d : ℤ} (positive : 1 ≤ d) {p : ℝ} (nonneg : 0 ≤ p) (le_one : p ≤ 1) :
    (d < 2 ^ 64 ∨ p = 0 ∨ p = 1 →
      ∃ wrong right : ℝ,
        pairwiseError (finite p : Exact tail) d = .ok (finite wrong) ∧
        pairwiseError (finite (1 - p) : Exact tail) d = .ok (finite right) ∧
        wrong + right = 1 - p ^ d - (1 - p) ^ d ∧ 0 ≤ wrong ∧ wrong ≤ 1) ∧
    (¬(d < 2 ^ 64 ∨ p = 0 ∨ p = 1) → ∀ r, r = p ∨ r = 1 - p →
      pairwiseError (finite r : Exact tail) d = .error (.arithmetic .tooManyCombinations)) := by
  obtain ⟨distance, rfl⟩ := Int.eq_ofNat_of_zero_le (zero_le_one.trans positive)
  have someBits : 0 < distance := by omega
  rw [zpow_natCast, zpow_natCast]
  constructor
  · intro countable
    have inReach : distance < 2 ^ 64 ∨ p = 0 ∨ p = 1 := countable.imp_left (by omega)
    have exchanged : distance < 2 ^ 64 ∨ 1 - p = 0 ∨ 1 - p = 1 :=
      inReach.imp_right fun certain =>
        certain.symm.imp (fun allWrong => sub_eq_zero.mpr allWrong.symm) sub_eq_self.mpr
    exact ⟨_, _, pairwiseError_finite someBits inReach nonneg le_one,
      pairwiseError_finite someBits exchanged (by linarith) (by linarith),
      pairwiseMass_add_one_sub someBits p, pairwiseMass_nonneg distance nonneg le_one,
      pairwiseMass_le_one someBits nonneg le_one⟩
  · intro uncountable r either
    rw [not_or, not_or] at uncountable
    obtain ⟨many, possible, uncertain⟩ := uncountable
    have wrongPossible : 0 < p := lt_of_le_of_ne nonneg (Ne.symm possible)
    have rightPossible : p < 1 := lt_of_le_of_ne le_one uncertain
    rcases either with rfl | rfl
    · exact pairwiseError_of_uncountable (by omega) wrongPossible rightPossible
    · exact pairwiseError_of_uncountable (by omega) (by linarith) (by linarith)

/-- Distance four, a tie included, where every third bit is wrong. -/
theorem pairwiseError_four_add_one_sub :
    (1 : ℤ) ≤ 4 ∧ (0 : ℝ) ≤ 1 / 3 ∧ (1 / 3 : ℝ) ≤ 1 ∧
      ∃ wrong right : ℝ,
        pairwiseError (finite (1 / 3) : Exact gaussianTail) 4 = .ok (finite wrong) ∧
        pairwiseError (finite (2 / 3) : Exact gaussianTail) 4 = .ok (finite right) ∧
        wrong + right = 64 / 81 ∧ 0 ≤ wrong ∧ wrong ≤ 1 := by
  obtain ⟨wrong, right, preferred, kept, together, bounds⟩ :=
    (@pairwiseError_add_one_sub gaussianTail 4 (by norm_num) (1 / 3) (by norm_num)
      (by norm_num)).1 (.inl (by norm_num))
  rw [show (1 : ℝ) - 1 / 3 = 2 / 3 by norm_num] at kept
  refine ⟨by norm_num, by norm_num, by norm_num, wrong, right, preferred, kept, ?_, bounds⟩
  rw [together]
  norm_num

/-- Beyond the reach of the counts there are no two probabilities to add. -/
theorem not_forall_pairwiseError_add_one_sub :
    pairwiseError (finite (1 / 2) : Exact gaussianTail) 18446744073709551630 =
      .error (.arithmetic .tooManyCombinations) ∧
    ¬∀ (d : ℤ) (p : ℝ), 1 ≤ d → 0 ≤ p → p ≤ 1 → ∃ wrong right : ℝ,
      pairwiseError (finite p : Exact gaussianTail) d = .ok (finite wrong) ∧
      pairwiseError (finite (1 - p) : Exact gaussianTail) d = .ok (finite right) ∧
      wrong + right = 1 - p ^ d - (1 - p) ^ d := by
  have refused : pairwiseError (finite (1 / 2) : Exact gaussianTail) 18446744073709551630 =
      .error (.arithmetic .tooManyCombinations) :=
    @pairwiseError_of_uncountable gaussianTail 18446744073709551630 (by norm_num) (1 / 2)
      (by norm_num) (by norm_num)
  refine ⟨refused, fun all => ?_⟩
  obtain ⟨wrong, _, answered, _⟩ :=
    all 18446744073709551630 (1 / 2) (by norm_num) (by norm_num) (by norm_num)
  cases refused.symm.trans answered

end WifiLink
