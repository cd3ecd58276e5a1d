import WifiLink.Proofs.Code.Majority
import WifiLink.Proofs.Code.Pairwise
import WifiLink.Proofs.Exact.GaussianTail

/-!
# Pairwise errors compared

How pairwise errors compare at an even distance and the odd one below it, and at a lower and a
higher bit error rate. Both comparisons reach as far as combinations are counted: below distance
`2 ^ 64`, and beyond it where an error is impossible or certain.
-/

namespace WifiLink

open Exact

variable {tail : ErrorTail}

/-- The further bit only takes from the term that is left out of both sums. -/
theorem pairwiseMass_even_sub_odd (half : ℕ) (p : ℝ) :
    pairwiseMass (2 * half + 2) p - pairwiseMass (2 * half + 1) p =
      p ^ (2 * half + 1) * (1 - p) := by
  have same := majorityMass_even half p
  unfold majorityMass at same
  calc
    pairwiseMass (2 * half + 2) p - pairwiseMass (2 * half + 1) p =
        p ^ (2 * half + 1) - p ^ (2 * half + 2) := by
      linarith
    _ = p ^ (2 * half + 1) * (1 - p) := by
      ring

/-- The formula for even distances exceeds the one for odd distances at the distance below by the
probability that all bits but the last are wrong. Where a tie of the even distance has too many
combinations to be counted, its formula has no answer. -/
theorem pairwiseEven_sub_pairwiseOdd
    {j : ℤ} (positive : 1 ≤ j) {p : ℝ} (nonneg : 0 ≤ p) (le_one : p ≤ 1) :
    (j < 2 ^ 63 ∨ p = 0 ∨ p = 1 →
      ∃ even odd : ℝ,
        pairwiseEven (finite p : Exact tail) (2 * j) = .ok (finite even) ∧
        pairwiseOdd (finite p : Exact tail) (2 * j - 1) = .ok (finite odd) ∧
        even - odd = p ^ (2 * j - 1) * (1 - p)) ∧
    (¬(j < 2 ^ 63 ∨ p = 0 ∨ p = 1) →
      pairwiseEven (finite p : Exact tail) (2 * j) =
        .error (.arithmetic .tooManyCombinations)) := by
  obtain ⟨half, rfl⟩ : ∃ half : ℕ, j = half + 1 := ⟨(j - 1).toNat, by omega⟩
  have even : 2 * ((half : ℤ) + 1) = (2 * (half + 1) : ℕ) := by push_cast; ring
  have odd : 2 * ((half : ℤ) + 1) - 1 = (2 * half + 1 : ℕ) := by push_cast; ring
  rw [odd, even, zpow_natCast]
  constructor
  · intro countable
    exact ⟨_, _,
      pairwiseEven_finite half.succ_pos (countable.imp_left (by omega)) nonneg le_one,
      pairwiseOdd_finite (countable.imp_left (by omega)) nonneg le_one,
      pairwiseMass_even_sub_odd half p⟩
  · intro uncountable
    rw [not_or, not_or] at uncountable
    obtain ⟨many, possible, uncertain⟩ := uncountable
    exact pairwiseEven_of_uncountable (by omega) (lt_of_le_of_ne nonneg (Ne.symm possible))
      (lt_of_le_of_ne le_one uncertain)

/-- Distances four and three, where every third bit is wrong. -/
theorem pairwiseEven_four_sub_three :
    (1 : ℤ) ≤ 2 ∧ (0 : ℝ) ≤ 1 / 3 ∧ (1 / 3 : ℝ) ≤ 1 ∧
      ∃ even odd : ℝ,
        pairwiseEven (finite (1 / 3) : Exact gaussianTail) 4 = .ok (finite even) ∧
        pairwiseOdd (finite (1 / 3) : Exact gaussianTail) 3 = .ok (finite odd) ∧
        even - odd = 2 / 81 := by
  obtain ⟨even, odd, tied, decided, difference⟩ :=
    (@pairwiseEven_sub_pairwiseOdd gaussianTail 2 (by norm_num) (1 / 3) (by norm_num)
      (by norm_num)).1 (.inl (by norm_num))
  refine ⟨by norm_num, by norm_num, by norm_num, even, odd, tied, decided, ?_⟩
  rw [difference]
  norm_num

/-- Beyond the reach of the counts the formula for even distances has no answer to compare. -/
theorem not_forall_pairwiseEven_sub_pairwiseOdd :
    pairwiseEven (finite (1 / 2) : Exact gaussianTail) (2 * 9223372036854775814) =
      .error (.arithmetic .tooManyCombinations) ∧
    ¬∀ (j : ℤ) (p : ℝ), 1 ≤ j → 0 ≤ p → p ≤ 1 → ∃ even odd : ℝ,
      pairwiseEven (finite p : Exact gaussianTail) (2 * j) = .ok (finite even) ∧
      pairwiseOdd (finite p : Exact gaussianTail) (2 * j - 1) = .ok (finite odd) ∧
      even - odd = p ^ (2 * j - 1) * (1 - p) := by
  have refused : pairwiseEven (finite (1 / 2) : Exact gaussianTail) (2 * 9223372036854775814) =
      .error (.arithmetic .tooManyCombinations) :=
    @pairwiseEven_of_uncountable gaussianTail 9223372036854775814 (1 / 2) (by norm_num)
      (by norm_num) (by norm_num)
  refine ⟨refused, fun all => ?_⟩
  obtain ⟨even, _, answered, _⟩ :=
    all 9223372036854775814 (1 / 2) (by norm_num) (by norm_num) (by norm_num)
  cases refused.symm.trans answered

/-- Up to one half a higher bit error rate makes no pairwise error less likely, though the term in
which all bits are wrong is left out. Below distance `2 ^ 64` both have an answer; from there on the
combinations are too many to be counted, and only where no bit is wrong there is an answer. -/
theorem pairwiseError_mono
    {d : ℤ} (positive : 1 ≤ d) {p q : ℝ} (nonneg : 0 ≤ p) (ordered : p ≤ q) (le_half : q ≤ 1 / 2) :
    (d < 2 ^ 64 →
      ∃ low high : ℝ,
        pairwiseError (finite p : Exact tail) d = .ok (finite low) ∧
        pairwiseError (finite q : Exact tail) d = .ok (finite high) ∧
        low ≤ high ∧ (p = 0 → low = 0)) ∧
    (2 ^ 64 ≤ d → ∀ r, r = p ∨ r = q →
      pairwiseError (finite r : Exact tail) d =
        if r = 0 then .ok (finite 0) else .error (.arithmetic .tooManyCombinations)) := by
  obtain ⟨distance, rfl⟩ := Int.eq_ofNat_of_zero_le (zero_le_one.trans positive)
  have someBits : 0 < distance := by omega
  constructor
  · intro countable
    have inReach : distance < 2 ^ 64 := by omega
    refine ⟨_, _, pairwiseError_finite someBits (.inl inReach) nonneg (by linarith),
      pairwiseError_finite someBits (.inl inReach) (by linarith) (by linarith), ?_, ?_⟩
    · exact pairwiseMass_monotoneOn someBits ⟨nonneg, by linarith⟩ ⟨by linarith, le_half⟩ ordered
    · rintro rfl
      exact pairwiseMass_zero someBits
  · intro uncountable r either
    have nonnegRate : 0 ≤ r := by rcases either with rfl | rfl <;> linarith
    have le_halfRate : r ≤ 1 / 2 := by rcases either with rfl | rfl <;> linarith
    split_ifs with zero
    · rw [pairwiseError_finite someBits (.inr (.inl zero)) nonnegRate (by linarith), zero,
        pairwiseMass_zero someBits]
    · exact pairwiseError_of_uncountable (by omega) (lt_of_le_of_ne nonnegRate (Ne.symm zero))
        (by linarith)

/-- Distance five, without errors and with every other bit wrong. -/
theorem pairwiseError_five_mono :
    (1 : ℤ) ≤ 5 ∧ (0 : ℝ) ≤ 0 ∧ (0 : ℝ) ≤ 1 / 2 ∧ (1 / 2 : ℝ) ≤ 1 / 2 ∧
      ∃ high : ℝ,
        pairwiseError (finite 0 : Exact gaussianTail) 5 = .ok (finite 0) ∧
        pairwiseError (finite (1 / 2) : Exact gaussianTail) 5 = .ok (finite high) ∧ 0 ≤ high := by
  obtain ⟨low, high, none, guessed, ordered, zero⟩ :=
    (@pairwiseError_mono gaussianTail 5 (by norm_num) 0 (1 / 2) le_rfl (by norm_num)
      le_rfl).1 (by norm_num)
  rw [zero rfl] at none ordered
  exact ⟨by norm_num, le_rfl, by norm_num, le_rfl, high, none, guessed, ordered⟩

/-- Nor is there a pairwise error to compare at a distance beyond that reach. -/
theorem not_forall_pairwiseError_mono :
    pairwiseError (finite (1 / 2) : Exact gaussianTail) 18446744073709551628 =
      .error (.arithmetic .tooManyCombinations) ∧
    ¬∀ (d : ℤ) (p q : ℝ), 1 ≤ d → 0 ≤ p → p ≤ q → q ≤ 1 / 2 → ∃ low high : ℝ,
      pairwiseError (finite p : Exact gaussianTail) d = .ok (finite low) ∧
      pairwiseError (finite q : Exact gaussianTail) d = .ok (finite high) ∧ low ≤ high := by
  have refused : pairwiseError (finite (1 / 2) : Exact gaussianTail) 18446744073709551628 =
      .error (.arithmetic .tooManyCombinations) :=
    @pairwiseError_of_uncountable gaussianTail 18446744073709551628 (by norm_num) (1 / 2)
      (by norm_num) (by norm_num)
  refine ⟨refused, fun all => ?_⟩
  obtain ⟨low, _, answered, _⟩ :=
    all 18446744073709551628 (1 / 2) (1 / 2) (by norm_num) (by norm_num) le_rfl le_rfl
  cases refused.symm.trans answered

end WifiLink
