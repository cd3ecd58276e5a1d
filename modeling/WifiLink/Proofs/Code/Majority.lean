import WifiLink.Proofs.Code.PartialTail

/-!
# Pairwise errors as majority decisions

Together with the all-errors term that its sum leaves out, a pairwise error is a majority decision
about the differing bits in which a coin decides a tie. Up to one half such a decision errs less
often the more bits it looks at: at an even distance it says nothing more than at the odd one
below, and at an odd distance it turns some of the ties below right.
-/

namespace WifiLink

open Finset

/-! ## Full tails -/

section FullTail

variable (n k : ℕ) (p : ℝ)

/-- The probability of at least `k` hits in `n` trials. -/
noncomputable def fullTail : ℝ :=
  ∑ i ∈ Ico k (n + 1), binomialMass n i p

theorem binomialMass_self : binomialMass n n p = p ^ n := by
  simp [binomialMass]

theorem binomialMass_succ_succ :
    binomialMass (n + 1) (k + 1) p =
      p * binomialMass n k p + (1 - p) * binomialMass n (k + 1) p := by
  unfold binomialMass
  rcases Nat.lt_or_ge k n with inside | outside
  · obtain ⟨misses, rfl⟩ : ∃ misses, n = k + 1 + misses := ⟨n - (k + 1), by omega⟩
    rw [Nat.choose_succ_succ, show k + 1 + misses + 1 - (k + 1) = misses + 1 by omega,
      show k + 1 + misses - k = misses + 1 by omega, Nat.add_sub_cancel_left]
    push_cast
    ring
  · rw [Nat.choose_succ_succ, Nat.choose_eq_zero_of_lt (Nat.lt_succ_of_le outside),
      Nat.add_sub_add_right, Nat.add_zero]
    push_cast
    ring

variable {n k} (bound : k ≤ n)
include bound

theorem fullTail_eq_partialTail_add : fullTail n k p = partialTail n k p + p ^ n := by
  rw [fullTail, sum_Ico_succ_top bound, binomialMass_self]
  rfl

theorem fullTail_eq_add : fullTail n k p = binomialMass n k p + fullTail n (k + 1) p :=
  sum_eq_sum_Ico_succ_bot (Nat.lt_succ_of_le bound) _

/-- The last trial matters when the others have just one hit too few. -/
theorem fullTail_succ_succ :
    fullTail (n + 1) (k + 1) p = fullTail n (k + 1) p + p * binomialMass n k p := by
  have none : binomialMass n (n + 1) p = 0 := by
    simp [binomialMass]
  have shifted : ∑ i ∈ Ico k (n + 1), binomialMass n (i + 1) p = fullTail n (k + 1) p := by
    rw [sum_Ico_add' (fun i => binomialMass n i p) k (n + 1) 1,
      sum_Ico_succ_top (by omega), none, add_zero]
    rfl
  have recurrence : fullTail (n + 1) (k + 1) p =
      p * fullTail n k p + (1 - p) * fullTail n (k + 1) p := by
    rw [fullTail, ← sum_Ico_add' (fun i => binomialMass (n + 1) i p) k (n + 1) 1]
    simp only [binomialMass_succ_succ, sum_add_distrib, ← mul_sum, shifted]
    rfl
  rw [recurrence, fullTail_eq_add p bound]
  ring

end FullTail

/-! ## Majorities -/

/-- A pairwise error with the term in which all bits are wrong. -/
noncomputable def majorityMass (d : ℕ) (p : ℝ) : ℝ :=
  pairwiseMass d p + p ^ d

theorem majorityMass_eq {d : ℕ} (positive : 0 < d) (p : ℝ) :
    majorityMass d p = (fullTail d ((d + 1) / 2) p + fullTail d (d / 2 + 1) p) / 2 := by
  rw [majorityMass, pairwiseMass, fullTail_eq_partialTail_add p (by omega),
    fullTail_eq_partialTail_add p (by omega)]
  ring

theorem majorityMass_odd (half : ℕ) (p : ℝ) :
    majorityMass (2 * half + 1) p = fullTail (2 * half + 1) (half + 1) p := by
  rw [majorityMass_eq (Nat.succ_pos _), show (2 * half + 1 + 1) / 2 = half + 1 by omega,
    show (2 * half + 1) / 2 + 1 = half + 1 by omega]
  ring

/-- A further bit that makes the distance even leads to ties, half of which go wrong. -/
theorem majorityMass_even (half : ℕ) (p : ℝ) :
    majorityMass (2 * half + 2) p = majorityMass (2 * half + 1) p := by
  have symmetric : p * binomialMass (2 * half + 1) half p =
      (1 - p) * binomialMass (2 * half + 1) (half + 1) p := by
    unfold binomialMass
    rw [Nat.choose_symm_half, show 2 * half + 1 - half = half + 1 by omega,
      show 2 * half + 1 - (half + 1) = half by omega]
    ring
  have low := fullTail_succ_succ (n := 2 * half + 1) (k := half) p (by omega)
  have high := fullTail_succ_succ (n := 2 * half + 1) (k := half + 1) p (by omega)
  have tie := fullTail_eq_add (n := 2 * half + 1) (k := half + 1) p (by omega)
  rw [majorityMass_odd, majorityMass_eq (Nat.succ_pos _),
    show (2 * half + 2 + 1) / 2 = half + 1 by omega,
    show (2 * half + 2) / 2 + 1 = half + 1 + 1 by omega, low, high]
  linarith

/-- A further bit that makes the distance odd decides the ties. -/
theorem majorityMass_odd_succ (half : ℕ) (p : ℝ) :
    majorityMass (2 * half + 3) p =
      majorityMass (2 * half + 2) p -
        (1 / 2 - p) * binomialMass (2 * half + 2) (half + 1) p := by
  have decided := fullTail_succ_succ (n := 2 * half + 2) (k := half + 1) p (by omega)
  have tie := fullTail_eq_add (n := 2 * half + 2) (k := half + 1) p (by omega)
  have odd := majorityMass_odd (half + 1) p
  rw [show 2 * (half + 1) + 1 = 2 * half + 2 + 1 by ring] at odd
  have even := majorityMass_eq (d := 2 * half + 2) (by omega) p
  rw [show (2 * half + 2 + 1) / 2 = half + 1 by omega,
    show (2 * half + 2) / 2 + 1 = half + 1 + 1 by omega, tie] at even
  rw [odd, decided, even]
  ring

section UpToHalf

variable {p : ℝ} (nonneg : 0 ≤ p) (le_half : p ≤ 1 / 2)
include nonneg le_half

theorem majorityMass_succ_le {d : ℕ} (positive : 0 < d) :
    majorityMass (d + 1) p ≤ majorityMass d p := by
  rcases Nat.even_or_odd' d with ⟨half, rfl | rfl⟩
  · obtain ⟨less, rfl⟩ := Nat.exists_eq_add_one_of_ne_zero (show half ≠ 0 by omega)
    have tie := binomialMass_nonneg (2 * less + 2) (less + 1) nonneg (by linarith)
    have decided := mul_nonneg (sub_nonneg.mpr le_half) tie
    rw [show 2 * (less + 1) = 2 * less + 2 by ring, majorityMass_odd_succ]
    linarith
  · rw [majorityMass_even]

theorem majorityMass_antitone {near far : ℕ} (positive : 0 < near) (farther : near ≤ far) :
    majorityMass far p ≤ majorityMass near p := by
  induction far, farther using Nat.le_induction with
  | base => exact le_rfl
  | succ far farther inductionHypothesis =>
      exact (majorityMass_succ_le nonneg le_half (by omega)).trans inductionHypothesis

end UpToHalf

/-! ## The all-errors term -/

/-- Guessing is right every other time, however many guesses are taken together. -/
theorem majorityMass_half (d : ℕ) : majorityMass (d + 1) (1 / 2) = 1 / 2 := by
  induction d with
  | zero => norm_num [majorityMass, pairwiseMass, partialTail]
  | succ d inductionHypothesis =>
      rcases Nat.even_or_odd' d with ⟨half, rfl | rfl⟩
      · rw [majorityMass_even, inductionHypothesis]
      · rw [show 2 * half + 1 + 1 = 2 * half + 2 by ring] at inductionHypothesis
        rw [show 2 * half + 1 + 1 + 1 = 2 * half + 3 by ring, majorityMass_odd_succ,
          inductionHypothesis, sub_self, zero_mul, sub_zero]

/-- Below one half a pattern with misses gains at least what it has by guessing. -/
theorem partialTail_half_le
    (n k : ℕ) {p : ℝ} (nonneg : 0 ≤ p) (le_half : p ≤ 1 / 2) :
    (2 * p) ^ n * partialTail n k (1 / 2) ≤ partialTail n k p := by
  rw [partialTail, partialTail, mul_sum]
  apply sum_le_sum
  intro i member
  have bound : i ≤ n := (mem_Ico.mp member).2.le
  -- A miss is at least as likely as a hit, so each pattern is taken for one of hits alone.
  have missPower : p ^ (n - i) ≤ (1 - p) ^ (n - i) :=
    pow_le_pow_left₀ nonneg (by linarith) _
  have guessed : (2 : ℝ) ^ n * ((1 / 2) ^ i * (1 - 1 / 2) ^ (n - i)) = 1 := by
    rw [show (1 : ℝ) - 1 / 2 = 1 / 2 by norm_num, ← pow_add, Nat.add_sub_cancel' bound,
      ← mul_pow]
    norm_num
  calc
    (2 * p) ^ n * binomialMass n i (1 / 2) =
        2 ^ n * ((1 / 2) ^ i * (1 - 1 / 2) ^ (n - i)) * (n.choose i * p ^ n) := by
      rw [binomialMass, mul_pow]
      ring
    _ = n.choose i * p ^ i * p ^ (n - i) := by
      rw [guessed, one_mul, mul_assoc, ← pow_add, Nat.add_sub_cancel' bound]
    _ ≤ binomialMass n i p := by
      unfold binomialMass
      gcongr

/-- The term that is left out is one of many, none of which is smaller. -/
theorem pow_mul_le_pairwiseMass
    (d : ℕ) {p : ℝ} (nonneg : 0 ≤ p) (le_half : p ≤ 1 / 2) :
    (2 ^ d - 1) * p ^ (d + 1) ≤ pairwiseMass (d + 1) p := by
  have guessed : pairwiseMass (d + 1) (1 / 2) = 1 / 2 - (1 / 2) ^ (d + 1) := by
    have half := majorityMass_half d
    rw [majorityMass] at half
    linarith
  have scaled : (2 * p) ^ (d + 1) * pairwiseMass (d + 1) (1 / 2) ≤ pairwiseMass (d + 1) p := by
    have first := partialTail_half_le (d + 1) ((d + 1 + 1) / 2) nonneg le_half
    have second := partialTail_half_le (d + 1) ((d + 1) / 2 + 1) nonneg le_half
    unfold pairwiseMass
    linarith
  have value : (2 * p) ^ (d + 1) * (1 / 2 - (1 / 2) ^ (d + 1)) = (2 ^ d - 1) * p ^ (d + 1) := by
    have inverse : (2 : ℝ) ^ (d + 1) * (1 / 2) ^ (d + 1) = 1 := by
      rw [← mul_pow]
      norm_num
    rw [mul_pow]
    linear_combination (-p ^ (d + 1)) * inverse
  rw [← value, ← guessed]
  exact scaled

/-- Farther paths are preferred less often, but for the term that is left out of both sums. -/
theorem pairwiseMass_farther_le
    (near far : ℕ) (farther : near + 1 ≤ far) {p : ℝ} (nonneg : 0 ≤ p) (le_half : p ≤ 1 / 2) :
    (2 ^ near - 1) * pairwiseMass far p ≤ 2 ^ near * pairwiseMass (near + 1) p := by
  have decided : majorityMass far p ≤ majorityMass (near + 1) p :=
    majorityMass_antitone nonneg le_half (Nat.succ_pos near) farther
  have missing := pow_mul_le_pairwiseMass near nonneg le_half
  have allErrors : 0 ≤ p ^ far := pow_nonneg nonneg far
  have patterns : (0 : ℝ) ≤ 2 ^ near - 1 := sub_nonneg.mpr (one_le_pow₀ one_le_two)
  unfold majorityMass at decided
  calc
    (2 ^ near - 1) * pairwiseMass far p ≤
        (2 ^ near - 1) * (pairwiseMass (near + 1) p + p ^ (near + 1)) := by
      gcongr
      linarith
    _ ≤ 2 ^ near * pairwiseMass (near + 1) p := by
      linarith

end WifiLink
