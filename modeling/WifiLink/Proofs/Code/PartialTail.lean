import WifiLink.Proofs.Exact.Basic

/-!
# Partial tails of the binomial distribution

A pairwise error probability is a sum of binomial probabilities that stops short of the last one,
in which every trial hits. Such a sum grows with the probability of a hit only up to one half:
its slope at `p` is that of the full tail less `p ^ n`, and up to one half no pattern of hits is
less likely than hits alone.
-/

namespace WifiLink

open Finset

/-- The probability of exactly `k` hits in `n` trials that hit with probability `p`. -/
noncomputable def binomialMass (n k : ℕ) (p : ℝ) : ℝ :=
  n.choose k * p ^ k * (1 - p) ^ (n - k)

theorem binomialMass_eq_bernstein (n k : ℕ) (p : ℝ) :
    binomialMass n k p = (bernsteinPolynomial ℝ n k).eval p := by
  simp [binomialMass, bernsteinPolynomial]

theorem binomialMass_nonneg
    (n k : ℕ) {p : ℝ} (nonneg : 0 ≤ p) (le_one : p ≤ 1) :
    0 ≤ binomialMass n k p := by
  have missNonneg : 0 ≤ 1 - p := sub_nonneg.mpr le_one
  unfold binomialMass
  positivity

/-- Some number of hits occurs. -/
theorem sum_binomialMass (n : ℕ) (p : ℝ) :
    ∑ k ∈ range (n + 1), binomialMass n k p = 1 := by
  have polynomials := congrArg (Polynomial.eval p) (bernsteinPolynomial.sum ℝ n)
  simpa only [binomialMass_eq_bernstein, Polynomial.eval_finsetSum, Polynomial.eval_one]
    using polynomials

/-- The probability of at least `k` hits, but not of `n` hits, in `n` trials. -/
noncomputable def partialTail (n k : ℕ) (p : ℝ) : ℝ :=
  ∑ i ∈ Ico k n, binomialMass n i p

theorem partialTail_nonneg
    (n k : ℕ) {p : ℝ} (nonneg : 0 ≤ p) (le_one : p ≤ 1) :
    0 ≤ partialTail n k p :=
  sum_nonneg fun i _ => binomialMass_nonneg n i nonneg le_one

theorem partialTail_zero {n k : ℕ} (positive : 0 < k) :
    partialTail n k 0 = 0 := by
  apply sum_eq_zero
  intro i member
  have hit : i ≠ 0 := (positive.trans_le (mem_Ico.mp member).1).ne'
  simp [binomialMass, hit]

/-- A sum of neighbouring differences: only its two ends are left. -/
theorem hasDerivAt_partialTail (n k : ℕ) (p : ℝ) :
    k ≤ n → HasDerivAt (partialTail (n + 1) (k + 1))
      ((n + 1) * (binomialMass n k p - p ^ n)) p := by
  intro bound
  have slope (i : ℕ) :
      HasDerivAt (binomialMass (n + 1) (i + 1))
        ((n + 1) * (binomialMass n i p - binomialMass n (i + 1) p)) p := by
    have derivative := (bernsteinPolynomial ℝ (n + 1) (i + 1)).hasDerivAt p
    rw [bernsteinPolynomial.derivative_succ] at derivative
    simpa [binomialMass_eq_bernstein, funext (binomialMass_eq_bernstein _ _)] using derivative
  have total := HasDerivAt.fun_sum (u := Ico k n) fun i _ => slope i
  have shifted : (fun x => ∑ i ∈ Ico k n, binomialMass (n + 1) (i + 1) x) =
      partialTail (n + 1) (k + 1) := by
    funext x
    rw [partialTail, ← sum_Ico_add' (fun i => binomialMass (n + 1) i x) k n 1]
  have ends : ∑ i ∈ Ico k n, (binomialMass n i p - binomialMass n (i + 1) p) =
      binomialMass n k p - p ^ n := by
    have telescope := sum_Ico_sub (fun i => binomialMass n i p) bound
    have top : binomialMass n n p = p ^ n := by simp [binomialMass]
    rw [← neg_sub, ← top, ← telescope, ← sum_neg_distrib]
    exact sum_congr rfl fun i _ => (neg_sub _ _).symm
  rw [shifted, ← mul_sum, ends] at total
  exact total

/-- Up to one half a miss is as likely as a hit, so that no pattern is less likely than all
hits. -/
theorem pow_le_binomialMass
    {n k : ℕ} {p : ℝ} (bound : k ≤ n) (nonneg : 0 ≤ p) (le_half : p ≤ 1 / 2) :
    p ^ n ≤ binomialMass n k p := by
  have ways : (1 : ℝ) ≤ n.choose k := by
    exact_mod_cast Nat.choose_pos bound
  have miss : p ≤ 1 - p := by linarith
  have missPower : p ^ (n - k) ≤ (1 - p) ^ (n - k) := pow_le_pow_left₀ nonneg miss _
  calc
    p ^ n = 1 * p ^ k * p ^ (n - k) := by
      rw [one_mul, ← pow_add, Nat.add_sub_cancel' bound]
    _ ≤ n.choose k * p ^ k * (1 - p) ^ (n - k) := by gcongr

/-- Though all hits are left out, more hits are likelier up to one half. -/
theorem partialTail_monotoneOn {n k : ℕ} (positive : 0 < k) :
    MonotoneOn (partialTail n k) (Set.Icc 0 (1 / 2)) := by
  rcases Nat.lt_or_ge k n with inside | outside
  · obtain ⟨hits, rfl⟩ := Nat.exists_eq_add_one_of_ne_zero positive.ne'
    obtain ⟨trials, rfl⟩ := Nat.exists_eq_add_one_of_ne_zero (positive.trans inside).ne'
    have bound : hits ≤ trials := by omega
    have slope (p : ℝ) := hasDerivAt_partialTail trials hits p bound
    apply monotoneOn_of_deriv_nonneg (convex_Icc 0 (1 / 2))
    · exact fun p _ => (slope p).continuousAt.continuousWithinAt
    · exact fun p _ => (slope p).differentiableAt.differentiableWithinAt
    · intro p member
      rw [interior_Icc] at member
      rw [(slope p).deriv]
      have least := pow_le_binomialMass bound member.1.le member.2.le
      exact mul_nonneg (by positivity) (sub_nonneg.mpr least)
  · intro p _ q _ _
    simp [partialTail, Ico_eq_empty_of_le outside]

/-- Half a tie: the mean of the tails from either side of the middle. At an odd distance the two
are the same. -/
noncomputable def pairwiseMass (d : ℕ) (p : ℝ) : ℝ :=
  (partialTail d ((d + 1) / 2) p + partialTail d (d / 2 + 1) p) / 2

theorem pairwiseMass_nonneg
    (d : ℕ) {p : ℝ} (nonneg : 0 ≤ p) (le_one : p ≤ 1) :
    0 ≤ pairwiseMass d p := by
  have upper := partialTail_nonneg d ((d + 1) / 2) nonneg le_one
  have lower := partialTail_nonneg d (d / 2 + 1) nonneg le_one
  unfold pairwiseMass
  positivity

theorem pairwiseMass_zero {d : ℕ} (positive : 0 < d) : pairwiseMass d 0 = 0 := by
  rw [pairwiseMass, partialTail_zero (by omega), partialTail_zero (by omega)]
  norm_num

theorem pairwiseMass_monotoneOn {d : ℕ} (positive : 0 < d) :
    MonotoneOn (pairwiseMass d) (Set.Icc 0 (1 / 2)) := by
  intro p pMember q qMember below
  have first := partialTail_monotoneOn (n := d) (k := (d + 1) / 2) (by omega)
    pMember qMember below
  have second := partialTail_monotoneOn (n := d) (k := d / 2 + 1) (by omega)
    pMember qMember below
  unfold pairwiseMass
  linarith

end WifiLink
