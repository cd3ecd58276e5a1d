import WifiLink.Code.Pairwise
import WifiLink.Proofs.Code.PartialTail
import WifiLink.Proofs.Exact.Basic
import WifiLink.Proofs.Outcome

/-!
# Pairwise errors in exact numbers

Whichever way a binomial term is formed, as a product or through logarithms, it is the binomial
probability, and the sums at odd and even distances are the mean of two partial tails.
-/

namespace WifiLink

open Exact

variable {tail : ErrorTail}

/-! ## Binomial terms -/

theorem consecutiveProduct_eq_ascFactorial (depth first count : ℕ) :
    consecutiveProduct depth first count = first.ascFactorial count := by
  induction depth generalizing first count with
  | zero =>
      rw [Nat.ascFactorial_eq_prod_range, consecutiveProduct]
      induction count with
      | zero => rfl
      | succ count inductionHypothesis =>
          rw [List.range_succ, List.foldl_append, inductionHypothesis, Finset.prod_range_succ]
          rfl
  | succ depth inductionHypothesis =>
      rw [consecutiveProduct, inductionHypothesis, inductionHypothesis,
        Nat.ascFactorial_mul_ascFactorial, Nat.add_sub_cancel' (Nat.div_le_self count 2)]

theorem choose_eq_natChoose {n k : ℕ} (bound : k ≤ n) :
    choose n k = n.choose k := by
  have fewer (j : ℕ) (inside : j ≤ n) :
      (n - j + 1).ascFactorial j / (1).ascFactorial j = n.choose j := by
    rw [Nat.one_ascFactorial, ← Nat.choose_eq_asc_factorial_div_factorial,
      Nat.sub_add_cancel inside]
  unfold choose
  simp only [consecutiveProduct_eq_ascFactorial]
  rcases le_total k (n - k) with low | high
  · rw [min_eq_left low, fewer k bound]
  · rw [min_eq_right high, fewer (n - k) (Nat.sub_le n k), Nat.choose_symm bound]

/-- The direct product of the factors is the binomial probability. -/
theorem binomialProduct_finite
    {n k : ℕ} (bound : k ≤ n) {p : ℝ} (positive : 0 < p) (lt_one : p < 1) :
    binomialProduct (n.choose k) k (finite p : Exact tail) n =
      .ok (finite (binomialMass n k p)) := by
  have miss : (1.0 : Exact tail) - finite p = finite (1 - p) := by
    rw [ofScientific_eq, finite_sub_finite]
    norm_num
  have missNonzero : 1 - p ≠ 0 := (sub_pos.mpr lt_one).ne'
  have misses : (n : Int) - k = (n - k : ℕ) := (Nat.cast_sub bound).symm
  rw [binomialProduct, miss, misses, power_finite _ (Or.inl positive.ne'),
    power_finite _ (Or.inl missNonzero)]
  simp [binomialMass]

/-- So is the exponential of the sum of the logarithms of the factors. -/
theorem binomialByLogarithms_finite
    {n k : ℕ} (bound : k ≤ n) {p : ℝ} (positive : 0 < p) (lt_one : p < 1) :
    binomialByLogarithms (n.choose k) k (finite p : Exact tail) n =
      .ok (finite (binomialMass n k p)) := by
  have missPositive : 0 < 1 - p := sub_pos.mpr lt_one
  have misses : (n : Int) - k = (n - k : ℕ) := (Nat.cast_sub bound).symm
  have ways : (0 : ℝ) < n.choose k := by
    exact_mod_cast Nat.choose_pos bound
  have logHit : (Scalar.log (finite p) : Exact tail) = finite (Real.log p) := by
    change Exact.log _ = _
    simp [Exact.log, positive.not_gt, positive.ne']
  have logMiss : (Scalar.logOnePlus (-finite p) : Exact tail) = finite (Real.log (1 - p)) := by
    change Exact.log (finite (1 + -p)) = _
    rw [← sub_eq_add_neg]
    simp [Exact.log, missPositive.not_gt, missPositive.ne']
  have total :
      Real.exp (Real.log (n.choose k) + k * Real.log p + (n - k : ℕ) * Real.log (1 - p)) =
        binomialMass n k p := by
    rw [Real.exp_add, Real.exp_add, Real.exp_log ways, Real.exp_nat_mul, Real.exp_nat_mul,
      Real.exp_log positive, Real.exp_log missPositive, binomialMass]
  rw [binomialByLogarithms, misses, logHit, logMiss]
  change Except.ok (finite (Real.exp 1 ^ _)) = _
  rw [Real.exp_one_rpow, ← total]
  simp

/-- A term is the binomial probability, whichever way it is formed. The certain cases count no
combinations. -/
theorem binomial_finite
    {n k : ℕ} (bound : k ≤ n) {p : ℝ} (countable : min k (n - k) < 2 ^ 63 ∨ p = 0 ∨ p = 1)
    (nonneg : 0 ≤ p) (le_one : p ≤ 1) :
    binomial (k : Int) (finite p : Exact tail) (n : Int) =
      .ok (finite (binomialMass n k p)) := by
  have inRange : (0 : Int) ≤ k ∧ (k : Int) ≤ n := by omega
  have inUnit : (0.0 : Exact tail) ≤ finite p ∧ (finite p : Exact tail) ≤ 1.0 := by
    norm_num [nonneg, le_one]
  rw [binomial, if_neg (not_not.mpr inRange), if_neg (not_not.mpr inUnit)]
  rcases eq_or_lt_of_le nonneg with rfl | positive
  · rw [if_pos (by norm_num)]
    by_cases none : k = 0
    · subst none
      norm_num [binomialMass]
    · norm_num [binomialMass, none]
  rw [if_neg (by norm_num; exact positive.ne')]
  rcases eq_or_lt_of_le le_one with rfl | lt_one
  · rw [if_pos (by norm_num)]
    rcases eq_or_lt_of_le bound with rfl | fewer
    · norm_num [binomialMass]
    · have some : n - k ≠ 0 := by omega
      norm_num [binomialMass, some, fewer.ne]
  rw [if_neg (by norm_num; exact lt_one.ne)]
  have fewEnough : min k (n - k) < 2 ^ 63 :=
    countable.resolve_right fun certain => certain.elim positive.ne' lt_one.ne
  have ways : combinations n k = .ok (n.choose k) := by
    rw [combinations, Nat.pow_eq, if_neg (by omega), choose_eq_natChoose bound]
  simp only [Int.toNat_natCast, ways, lift_ok, ok_bind,
    binomialProduct_finite bound positive lt_one,
    binomialByLogarithms_finite bound positive lt_one]
  split_ifs <;> rfl

/-- Elsewhere the combinations are counted, and too many of them are refused. -/
theorem binomial_of_uncountable
    {n k : ℕ} (uncountable : 2 ^ 63 ≤ min k (n - k)) {p : ℝ} (positive : 0 < p) (lt_one : p < 1) :
    binomial (k : Int) (finite p : Exact tail) (n : Int) =
      .error (.arithmetic .tooManyCombinations) := by
  have inRange : (0 : Int) ≤ k ∧ (k : Int) ≤ n := by omega
  have inUnit : (0.0 : Exact tail) ≤ finite p ∧ (finite p : Exact tail) ≤ 1.0 := by
    norm_num [positive.le, lt_one.le]
  have ways : combinations n k = .error .tooManyCombinations := by
    rw [combinations, Nat.pow_eq, if_pos (by omega)]
  rw [binomial, if_neg (not_not.mpr inRange), if_neg (not_not.mpr inUnit),
    if_neg (by norm_num; exact positive.ne'), if_neg (by norm_num; exact lt_one.ne)]
  simp only [Int.toNat_natCast, ways, lift_error, error_bind]

/-- Terms added one after the other. -/
theorem addBinomials_finite
    {d : ℕ} {p : ℝ} (nonneg : 0 ≤ p) (le_one : p ≤ 1)
    (count first : ℕ) (bound : first + count ≤ d + 1)
    (countable : d < first + 2 ^ 63 ∨ p = 0 ∨ p = 1) (sum : ℝ) :
    addBinomials (finite p : Exact tail) d count first (finite sum) =
      .ok (finite (sum + ∑ i ∈ Finset.Ico first (first + count), binomialMass d i p)) := by
  induction count generalizing first sum with
  | zero => simp [addBinomials]
  | succ count inductionHypothesis =>
      have next : (first : Int) + 1 = (first + 1 : ℕ) := rfl
      have split := Finset.sum_eq_sum_Ico_succ_bot
        (show first < first + (count + 1) by omega) (fun i => binomialMass d i p)
      have term : binomial (first : Int) (finite p : Exact tail) d =
          .ok (finite (binomialMass d first p)) :=
        binomial_finite (by omega) (countable.imp_left (by omega)) nonneg le_one
      rw [addBinomials, term, ok_bind, next, finite_add_finite,
        inductionHypothesis (first + 1) (by omega) (countable.imp_left (by omega)), split,
        add_assoc, show first + 1 + count = first + (count + 1) by omega]

theorem binomialSum_finite
    {d first : ℕ} (bound : first ≤ d) {p : ℝ} (countable : d < first + 2 ^ 63 ∨ p = 0 ∨ p = 1)
    (nonneg : 0 ≤ p) (le_one : p ≤ 1) :
    binomialSum (finite p : Exact tail) d first = .ok (finite (partialTail d first p)) := by
  have count : ((d : Int) - first).toNat = d - first := by omega
  rw [binomialSum, count, zero_eq_finite,
    addBinomials_finite nonneg le_one _ _ (by omega) countable, zero_add,
    Nat.add_sub_cancel' bound, partialTail]

/-- The first term is refused, and the sum with it. -/
theorem binomialSum_of_uncountable
    {d first : ℕ} (uncountable : 2 ^ 63 ≤ min first (d - first))
    {p : ℝ} (positive : 0 < p) (lt_one : p < 1) :
    binomialSum (finite p : Exact tail) d first = .error (.arithmetic .tooManyCombinations) := by
  obtain ⟨count, equality⟩ :=
    Nat.exists_eq_add_one_of_ne_zero (show ((d : Int) - first).toNat ≠ 0 by omega)
  rw [binomialSum, equality, addBinomials, binomial_of_uncountable uncountable positive lt_one,
    error_bind]

/-! ## Odd and even distances -/

section Parity

variable {half : ℕ} {p : ℝ}

/-- At an even distance the sum is the mean of two tails, one with the tie and one without. -/
theorem pairwiseEven_finite
    (someBits : 0 < half) (countable : half < 2 ^ 63 ∨ p = 0 ∨ p = 1)
    (nonneg : 0 ≤ p) (le_one : p ≤ 1) :
    pairwiseEven (finite p : Exact tail) (2 * half : ℕ) =
      .ok (finite (pairwiseMass (2 * half) p)) := by
  have middle : ((2 * half : ℕ) : Int) / 2 = half := by omega
  have next : (half : Int) + 1 = (half + 1 : ℕ) := rfl
  have tie : partialTail (2 * half) half p =
      binomialMass (2 * half) half p + partialTail (2 * half) (half + 1) p :=
    Finset.sum_eq_sum_Ico_succ_bot (by omega) _
  have mean : pairwiseMass (2 * half) p =
      partialTail (2 * half) (half + 1) p + 1 / 2 * binomialMass (2 * half) half p := by
    rw [pairwiseMass, show (2 * half + 1) / 2 = half by omega,
      show 2 * half / 2 = half by omega, tie]
    ring
  rw [pairwiseEven, if_neg (by omega), middle, next,
    binomialSum_finite (by omega) (countable.imp_left (by omega)) nonneg le_one, ok_bind,
    binomial_finite (by omega) (countable.imp_left (by omega)) nonneg le_one, ok_bind, mean]
  norm_num
  rfl

/-- At an odd distance both tails are the same. -/
theorem pairwiseOdd_finite
    (countable : half < 2 ^ 63 ∨ p = 0 ∨ p = 1) (nonneg : 0 ≤ p) (le_one : p ≤ 1) :
    pairwiseOdd (finite p : Exact tail) (2 * half + 1 : ℕ) =
      .ok (finite (pairwiseMass (2 * half + 1) p)) := by
  have middle : (((2 * half + 1 : ℕ) : Int) + 1) / 2 = (half + 1 : ℕ) := by omega
  have mean : pairwiseMass (2 * half + 1) p = partialTail (2 * half + 1) (half + 1) p := by
    rw [pairwiseMass, show (2 * half + 1 + 1) / 2 = half + 1 by omega,
      show (2 * half + 1) / 2 = half by omega, add_self_div_two]
  rw [pairwiseOdd, if_neg (by omega), middle,
    binomialSum_finite (by omega) (countable.imp_left (by omega)) nonneg le_one, mean]

/-- The tie has the most combinations: at the limit it is refused alone, above it the first term of
the sum is. -/
theorem pairwiseEven_of_uncountable
    (uncountable : 2 ^ 63 ≤ half) (positive : 0 < p) (lt_one : p < 1) :
    pairwiseEven (finite p : Exact tail) (2 * half : ℕ) =
      .error (.arithmetic .tooManyCombinations) := by
  have middle : ((2 * half : ℕ) : Int) / 2 = half := by omega
  have next : (half : Int) + 1 = (half + 1 : ℕ) := rfl
  rw [pairwiseEven, if_neg (by omega), middle, next]
  rcases uncountable.eq_or_lt with limit | more
  · rw [binomialSum_finite (by omega) (.inl (by omega)) positive.le lt_one.le, ok_bind,
      binomial_of_uncountable (by omega) positive lt_one, error_bind]
  · rw [binomialSum_of_uncountable (by omega) positive lt_one, error_bind]

theorem pairwiseOdd_of_uncountable
    (uncountable : 2 ^ 63 ≤ half) (positive : 0 < p) (lt_one : p < 1) :
    pairwiseOdd (finite p : Exact tail) (2 * half + 1 : ℕ) =
      .error (.arithmetic .tooManyCombinations) := by
  have middle : (((2 * half + 1 : ℕ) : Int) + 1) / 2 = (half + 1 : ℕ) := by omega
  rw [pairwiseOdd, if_neg (by omega), middle,
    binomialSum_of_uncountable (by omega) positive lt_one]

end Parity

/-- At any distance the sum is the same mean of two tails. -/
theorem pairwiseError_finite
    {d : ℕ} (someBits : 0 < d) {p : ℝ} (countable : d < 2 ^ 64 ∨ p = 0 ∨ p = 1)
    (nonneg : 0 ≤ p) (le_one : p ≤ 1) :
    pairwiseError (finite p : Exact tail) d = .ok (finite (pairwiseMass d p)) := by
  rw [pairwiseError, if_neg (by omega)]
  rcases Nat.even_or_odd' d with ⟨half, rfl | rfl⟩
  · rw [if_pos (by omega),
      pairwiseEven_finite (by omega) (countable.imp_left (by omega)) nonneg le_one]
  · rw [if_neg (by omega), pairwiseOdd_finite (countable.imp_left (by omega)) nonneg le_one]

theorem pairwiseError_of_uncountable
    {d : ℕ} (uncountable : 2 ^ 64 ≤ d) {p : ℝ} (positive : 0 < p) (lt_one : p < 1) :
    pairwiseError (finite p : Exact tail) d = .error (.arithmetic .tooManyCombinations) := by
  rw [pairwiseError, if_neg (by omega)]
  rcases Nat.even_or_odd' d with ⟨half, rfl | rfl⟩
  · rw [if_pos (by omega), pairwiseEven_of_uncountable (by omega) positive lt_one]
  · rw [if_neg (by omega), pairwiseOdd_of_uncountable (by omega) positive lt_one]

/-! ## What is no probability -/

section OutOfRange

variable {α : Type} [Scalar α] {errorRate : α}

theorem binomial_of_not_probability
    (outside : ¬(0.0 ≤ errorRate ∧ errorRate ≤ 1.0))
    {k n : Int} (inRange : 0 ≤ k ∧ k ≤ n) :
    binomial k errorRate n = .error (.probabilityOutOfRange errorRate) := by
  rw [binomial, if_neg (not_not.mpr inRange), if_pos outside]

/-- From distance two on there is a term to refuse the error rate. -/
theorem pairwiseError_of_not_probability
    (outside : ¬(0.0 ≤ errorRate ∧ errorRate ≤ 1.0))
    {distance : Int} (two_le : 2 ≤ distance) :
    pairwiseError errorRate distance = .error (.probabilityOutOfRange errorRate) := by
  have sum_refused {first : Int} (low : 0 ≤ first) (below : first < distance) :
      binomialSum errorRate distance first = .error (.probabilityOutOfRange errorRate) := by
    obtain ⟨count, equality⟩ :=
      Nat.exists_eq_add_one_of_ne_zero (show (distance - first).toNat ≠ 0 by omega)
    rw [binomialSum, equality, addBinomials,
      binomial_of_not_probability outside ⟨low, below.le⟩, error_bind]
  rw [pairwiseError, if_neg (by omega)]
  by_cases even : distance % 2 = 0
  · rw [if_pos even, pairwiseEven, if_neg (not_not.mpr even)]
    rcases two_le.eq_or_lt with rfl | larger
    · rw [show binomialSum errorRate 2 (2 / 2 + 1) = .ok 0.0 from rfl, ok_bind,
        binomial_of_not_probability outside (by omega), error_bind]
    · rw [sum_refused (by omega) (by omega), error_bind]
  · rw [if_neg even, pairwiseOdd, if_neg (by omega), sum_refused (by omega) (by omega)]

end OutOfRange

end WifiLink
