import WifiLink.Proofs.Code.Pairwise
import WifiLink.Proofs.Exact.GaussianTail
import WifiLink.Proofs.Rounded.Basic
import WifiLink.Proofs.Rounded.Relative

/-!
# Accuracy of binomial terms among doubles

A term of full precision is found by one of two ways. The logarithms of its factors are never out
of range, and little is lost by them. The product of the factors is taken wherever it has full
precision itself, whether or not the powers in it have: the digits that a power has lost are missing
in the term.
-/

namespace WifiLink

open Exact Rounded

/-! ## Two ways -/

section Ways

variable {α : Type} [Scalar α] {k n : ℤ} {p : α}

/-- The product of the factors is a number of full precision. -/
def ProductServes (k : ℤ) (p : α) (n : ℤ) : Prop :=
  ∃ product, binomialProduct (choose n.toNat k.toNat) k p n = .ok product ∧
    leastNormal ≤ product ∧ Scalar.isFinite product

/-- The term is neither refused nor decided, and its combinations can be counted. -/
structure IsOpen (k : ℤ) (p : α) (n : ℤ) : Prop where
  inRange : 0 ≤ k ∧ k ≤ n
  inUnit : 0.0 ≤ p ∧ p ≤ 1.0
  notZero : ¬Scalar.same p 0.0
  notOne : ¬Scalar.same p 1.0
  ways : combinations n.toNat k.toNat = .ok (choose n.toNat k.toNat)

namespace IsOpen

variable (isOpen : IsOpen k p n)
include isOpen

private theorem binomial_of_serves {product : α}
    (multiplied : binomialProduct (choose n.toNat k.toNat) k p n = .ok product)
    (serves : leastNormal ≤ product ∧ Scalar.isFinite product) : binomial k p n = .ok product := by
  rw [binomial, if_neg (not_not.mpr isOpen.inRange), if_neg (not_not.mpr isOpen.inUnit),
    if_neg isOpen.notZero, if_neg isOpen.notOne, isOpen.ways, lift_ok, ok_bind, multiplied]
  exact if_pos serves

/-- A product that cannot be formed counts as zero. -/
theorem binomial_of_not_serves (normal : ¬leastNormal ≤ (0.0 : α)) (fails : ¬ProductServes k p n) :
    binomial k p n = liftM (binomialByLogarithms (choose n.toNat k.toNat) k p n) := by
  rw [binomial, if_neg (not_not.mpr isOpen.inRange), if_neg (not_not.mpr isOpen.inUnit),
    if_neg isOpen.notZero, if_neg isOpen.notOne, isOpen.ways, lift_ok, ok_bind]
  cases multiplied : binomialProduct (choose n.toNat k.toNat) k p n with
  | ok product => exact if_neg fun serves => fails ⟨product, multiplied, serves⟩
  | error cause => exact if_neg fun serves => normal serves.1

end IsOpen

end Ways

variable {tail : ErrorTail}

private theorem leastNormal_real :
    (2.2250738585072014e-308 : ℝ) = 22250738585072014 / 10 ^ 324 := by
  rw [NNRatCast.ofScientific_eq_ite, if_pos rfl, NNRat.cast_divNat, Nat.cast_pow]
  rfl

private theorem two_zpow_le_leastNormal : (2 : ℝ) ^ (-1022 : ℤ) ≤ 2.2250738585072014e-308 := by
  have whole : 10 ^ 324 ≤ 22250738585072014 * 2 ^ 1022 := by decide +kernel
  rw [leastNormal_real, zpow_neg, inv_le_iff_one_le_mul₀ (by positivity), div_mul_eq_mul_div,
    one_le_div (by positivity)]
  exact_mod_cast whole

private theorem leastNormal_le_two_zpow : (2.2250738585072014e-308 : ℝ) ≤ 2 ^ (-1021 : ℤ) := by
  have whole : 2 ^ 1021 * 22250738585072014 ≤ 10 ^ 324 := by decide +kernel
  rw [leastNormal_real, zpow_neg, le_inv_comm₀ (by positivity) (by positivity), inv_div,
    le_div_iff₀ (by positivity)]
  exact_mod_cast whole

/-- The bound of full precision is read as a number about the least one that has it. -/
theorem exact_leastNormal (tail : ErrorTail) :
    ∃ bound : ℝ, (leastNormal : Rounded tail).exact = finite bound ∧ 2 ^ (-1022 : ℤ) ≤ bound ∧
      bound ≤ 2 ^ (-1021 : ℤ) := by
  have lower := two_zpow_le_leastNormal
  have upper := leastNormal_le_two_zpow
  have inside : |(2.2250738585072014e-308 : ℝ)| ≤ 2 ^ 0 := by
    rw [abs_of_nonneg ((zpow_nonneg two_pos.le _).trans lower), pow_zero]
    exact upper.trans (zpow_le_one_of_nonpos₀ one_le_two (by norm_num))
  refine ⟨_, exact_rounded_finite (abs_nearest_lt_of_abs_le inside (by norm_num)), ?_, ?_⟩
  · exact le_nearest_of_le (representable_two_zpow (by norm_num)) lower
  · exact nearest_le_of_le (representable_two_zpow (by norm_num)) upper

/-! ## The product -/

/-- The product of the factors, each calculation rounded. -/
noncomputable def roundedProduct (n k : ℕ) (x : ℝ) : ℝ :=
  nearest (nearest (nearest (n.choose k) * nearest (x ^ k)) *
    nearest (nearest (1 - x) ^ (n - k)))

/-- What of the two powers their roundings leave. -/
noncomputable def keptShare (n k : ℕ) (x : ℝ) : ℝ :=
  nearest (x ^ k) / x ^ k * (nearest (nearest (1 - x) ^ (n - k)) / nearest (1 - x) ^ (n - k))

section Product

variable {n k : ℕ} {x : ℝ} (double : IsDouble x) (positive : 0 < x) (below : x < 1)

/-- Powers of numbers up to one stay there when they are rounded. -/
theorem nearest_pow_le_one {base : ℝ} (nonneg : 0 ≤ base) (le_one : base ≤ 1) (exponent : ℕ) :
    nearest (base ^ exponent) ≤ 1 :=
  nearest_le_of_le representable_one (pow_le_one₀ nonneg le_one)

private theorem within_nearest_choose (bound : k ≤ n) :
    Within 1 (nearest (n.choose k)) (n.choose k) := by
  have some : (1 : ℝ) ≤ n.choose k := by exact_mod_cast Nat.choose_pos bound
  apply Within.of_normal (zero_le_one.trans some)
  exact (zpow_le_one_of_nonpos₀ one_le_two (by norm_num)).trans
    (le_nearest_of_le representable_one some)

include double positive below

/-- A double below one is not next to it by more than the last of fifty-three bits. -/
theorem two_zpow_le_one_sub : 2 ^ (-53 : ℤ) ≤ 1 - x := by
  have next := add_gridStep_le double.1 representable_one positive below
  rcases le_or_gt (2 ^ (-1 : ℤ)) x with large | small
  · have last : gridStep x = 2 ^ (-1 - 52 : ℤ) :=
      gridStep_eq_of_mem (by norm_num) large (by norm_num; exact below)
    rw [last] at next
    norm_num at next ⊢
    linarith
  · norm_num at small ⊢
    linarith

private theorem lastPlace_le_one_sub : lastPlace ≤ 1 - x :=
  (zpow_le_zpow_right₀ one_le_two (by norm_num)).trans (two_zpow_le_one_sub double positive below)

private theorem nearest_one_sub_mem : 2 ^ (-53 : ℤ) ≤ nearest (1 - x) ∧ nearest (1 - x) ≤ 1 := by
  constructor
  · exact le_nearest_of_le (representable_two_zpow (by norm_num))
      (two_zpow_le_one_sub double positive below)
  · exact nearest_le_of_le representable_one (by linarith)

private theorem nearest_one_sub_pos : 0 < nearest (1 - x) :=
  (zpow_pos two_pos _).trans_le (nearest_one_sub_mem double positive below).1

private theorem within_nearest_one_sub : Within 1 (nearest (1 - x)) (1 - x) := by
  apply Within.of_normal (sub_nonneg.mpr below.le)
  exact (zpow_le_zpow_right₀ one_le_two (by norm_num)).trans
    (nearest_one_sub_mem double positive below).1

/-- A product of full precision has lost nothing but what its powers have. -/
theorem within_roundedProduct (bound : k ≤ n)
    (normal : 2 ^ (-1022 : ℤ) ≤ roundedProduct n k x) :
    Within (3 + (n - k)) (roundedProduct n k x) (keptShare n k x * binomialMass n k x) := by
  obtain ⟨_, misses_le⟩ := nearest_one_sub_mem double positive below
  have misses := nearest_one_sub_pos double positive below
  have ways : (0 : ℝ) ≤ n.choose k := Nat.cast_nonneg _
  have hits : 0 ≤ nearest (x ^ k) := nearest_nonneg (pow_nonneg positive.le k)
  have rest : 0 ≤ nearest (nearest (1 - x) ^ (n - k)) :=
    nearest_nonneg (pow_nonneg misses.le _)
  have rest_le := nearest_pow_le_one misses.le misses_le (n - k)
  have product : Within 2 (roundedProduct n k x)
      (nearest (n.choose k) * nearest (x ^ k) * nearest (nearest (1 - x) ^ (n - k))) :=
    Within.of_normal_mul_mul (mul_nonneg (nearest_nonneg ways) hits) rest rest_le normal
  have count := ((within_nearest_choose bound).mul_right hits).mul_right rest
  have power := (within_nearest_one_sub double positive below).pow misses.le
    (sub_nonneg.mpr below.le) (n - k)
  have lost : 0 ≤ n.choose k * nearest (x ^ k) *
      (nearest (nearest (1 - x) ^ (n - k)) / nearest (1 - x) ^ (n - k)) :=
    mul_nonneg (mul_nonneg ways hits) (div_nonneg rest (pow_nonneg misses.le _))
  have misses_ne := (pow_pos misses (n - k)).ne'
  have hits_ne := (pow_pos positive k).ne'
  have kept : keptShare n k x * binomialMass n k x =
      n.choose k * nearest (x ^ k) *
        (nearest (nearest (1 - x) ^ (n - k)) / nearest (1 - x) ^ (n - k)) *
          (1 - x) ^ (n - k) := by
    rw [keptShare, binomialMass]
    field_simp
  have whole : n.choose k * nearest (x ^ k) * nearest (nearest (1 - x) ^ (n - k)) =
      n.choose k * nearest (x ^ k) *
        (nearest (nearest (1 - x) ^ (n - k)) / nearest (1 - x) ^ (n - k)) *
          nearest (1 - x) ^ (n - k) := by
    field_simp
  have last := power.mul_left lost
  rw [← kept, ← whole, one_mul] at last
  exact (product.trans count).trans last

private theorem keptShare_nonneg : 0 ≤ keptShare n k x := by
  have hits := pow_nonneg positive.le k
  have misses := pow_nonneg (nearest_one_sub_pos double positive below).le (n - k)
  exact mul_nonneg (div_nonneg (nearest_nonneg hits) hits)
    (div_nonneg (nearest_nonneg misses) misses)

/-- Powers of full precision are as good as whole. -/
theorem within_keptShare (hits : 2 ^ (-1022 : ℤ) ≤ x ^ k)
    (misses : 2 ^ (-1022 : ℤ) ≤ nearest (1 - x) ^ (n - k)) : Within 2 (keptShare n k x) 1 := by
  have kept {z : ℝ} (normal : 2 ^ (-1022 : ℤ) ≤ z) : Within 1 (nearest z / z) 1 := by
    have above : 0 < z := (zpow_pos two_pos _).trans_le normal
    have near := Within.of_normal above.le (le_nearest_of_le (representable_two_zpow (by norm_num))
      normal)
    have scaled := near.mul_right (inv_nonneg.mpr above.le)
    rwa [mul_inv_cancel₀ above.ne', ← div_eq_mul_inv] at scaled
  have above := pow_pos (nearest_one_sub_pos double positive below) (n - k)
  have nonneg : 0 ≤ nearest (nearest (1 - x) ^ (n - k)) / nearest (1 - x) ^ (n - k) :=
    div_nonneg (nearest_nonneg above.le) above.le
  have first := (kept hits).mul_right nonneg
  rw [one_mul] at first
  exact first.trans (kept misses)

end Product

/-! ## The logarithms -/

/-- The exponential of the sum of the logarithms, each calculation rounded. -/
noncomputable def roundedExponent (n k : ℕ) (x : ℝ) : ℝ :=
  nearest (nearest (nearest (Real.log (n.choose k)) + nearest (k * nearest (Real.log x))) +
    nearest ((n - k : ℕ) * nearest (Real.log (1 - x))))

noncomputable def roundedByLogarithms (n k : ℕ) (x : ℝ) : ℝ :=
  nearest (Real.exp (roundedExponent n k x))

section Logarithms

variable {n k : ℕ} {x : ℝ} (bound : k ≤ n) (positive : 0 < x) (below : x < 1)

/-- Logarithms of doubles are small. -/
theorem abs_log_le {number : ℝ} (place : lastPlace ≤ number) (le_one : number ≤ 1) :
    |Real.log number| ≤ 2 ^ 10 := by
  have two := Real.log_two_lt_d9
  have least := Real.log_le_log lastPlace_pos place
  have most := Real.log_nonpos (lastPlace_pos.le.trans place) le_one
  rw [lastPlace, Real.log_zpow] at least
  push_cast at least
  rw [abs_le]
  constructor <;> linarith

/-- So are multiples of them. -/
theorem abs_mul_nearest_le {count : ℕ} (few : count ≤ 1100) {number : ℝ}
    (small : |number| ≤ 2 ^ 10) : |count * nearest number| ≤ 2 ^ 21 := by
  have many : (count : ℝ) ≤ 1100 := by exact_mod_cast few
  rw [abs_mul, Nat.abs_cast]
  calc
    (count : ℝ) * |nearest number| ≤ 1100 * 2 ^ 10 :=
      mul_le_mul many (abs_nearest_le_two_pow small) (abs_nonneg _) (by norm_num)
    _ ≤ 2 ^ 21 := by norm_num

private theorem le_log_of_normal {mass : ℝ} (normal : 2 ^ (-1022 : ℤ) ≤ mass) :
    -709 ≤ Real.log mass := by
  have two := Real.log_two_lt_d9
  have least := Real.log_le_log (zpow_pos two_pos _) normal
  rw [Real.log_zpow] at least
  push_cast at least
  linarith

include bound

private theorem log_choose_le (few : n ≤ 1100) : Real.log (n.choose k) ≤ 763 := by
  have some : (0 : ℝ) < n.choose k := by exact_mod_cast Nat.choose_pos bound
  have many : (n.choose k : ℝ) ≤ 2 ^ n := by exact_mod_cast Nat.choose_le_two_pow n k
  have cast : (n : ℝ) ≤ 1100 := by exact_mod_cast few
  have two := Real.log_two_lt_d9
  have two_pos := Real.log_pos one_lt_two
  calc
    Real.log (n.choose k) ≤ Real.log (2 ^ n) := Real.log_le_log some many
    _ = n * Real.log 2 := Real.log_pow 2 n
    _ ≤ 1100 * Real.log 2 := mul_le_mul_of_nonneg_right cast two_pos.le
    _ ≤ 763 := by linarith

private theorem abs_log_choose_le (few : n ≤ 1100) : |Real.log (n.choose k)| ≤ 2 ^ 10 := by
  rw [abs_of_nonneg (Real.log_natCast_nonneg _)]
  exact (log_choose_le bound few).trans (by norm_num)

include positive below

private theorem log_binomialMass :
    Real.log (binomialMass n k x) =
      Real.log (n.choose k) + k * Real.log x + (n - k : ℕ) * Real.log (1 - x) := by
  have ways : (n.choose k : ℝ) ≠ 0 := by exact_mod_cast (Nat.choose_pos bound).ne'
  have misses : 0 < 1 - x := sub_pos.mpr below
  rw [binomialMass, Real.log_mul (mul_ne_zero ways (pow_pos positive k).ne') (pow_pos misses _).ne',
    Real.log_mul ways (pow_pos positive k).ne', Real.log_pow, Real.log_pow]

private theorem abs_roundedExponent_sub_le (few : n ≤ 1100)
    (normal : 2 ^ (-1022 : ℤ) ≤ binomialMass n k x) :
    |roundedExponent n k x - Real.log (binomialMass n k x)| ≤ 7 * 2 ^ (-40 : ℤ) := by
  have least := le_log_of_normal normal
  have ways_nonneg : 0 ≤ Real.log (n.choose k) := Real.log_natCast_nonneg _
  have ways_le := log_choose_le bound few
  have hits : k * Real.log x ≤ 0 :=
    mul_nonpos_of_nonneg_of_nonpos (Nat.cast_nonneg k) (Real.log_nonpos positive.le below.le)
  have misses : (n - k : ℕ) * Real.log (1 - x) ≤ 0 :=
    mul_nonpos_of_nonneg_of_nonpos (Nat.cast_nonneg _)
      (Real.log_nonpos (sub_nonneg.mpr below.le) (by linarith))
  have total := log_binomialMass bound positive below
  have room : (2000 : ℝ) + 7 * 2 ^ (-40 : ℤ) ≤ 2 ^ 12 := by norm_num
  have ways : |nearest (Real.log (n.choose k)) - Real.log (n.choose k)| ≤ 2 ^ (-40 : ℤ) :=
    abs_nearest_sub_le_of_abs_le (by rw [abs_of_nonneg ways_nonneg]; linarith)
  have hit := abs_nearest_mul_nearest_sub_le (bound.trans few)
    (abs_le.mpr ⟨by linarith, by linarith⟩ : |(k : ℝ) * Real.log x| ≤ 1500)
  have miss := abs_nearest_mul_nearest_sub_le ((Nat.sub_le n k).trans few)
    (abs_le.mpr ⟨by linarith, by linarith⟩ : |((n - k : ℕ) : ℝ) * Real.log (1 - x)| ≤ 1500)
  have first : |Real.log (n.choose k) + k * Real.log x| ≤ 1500 :=
    abs_le.mpr ⟨by linarith, by linarith⟩
  have second :
      |Real.log (n.choose k) + k * Real.log x + (n - k : ℕ) * Real.log (1 - x)| ≤ 1500 :=
    abs_le.mpr ⟨by linarith, by linarith⟩
  have part := abs_nearest_add_sub_le ways hit (by linarith)
  have whole := abs_nearest_add_sub_le part miss (by linarith)
  rw [total]
  refine whole.trans (le_of_eq ?_)
  ring

private theorem binomialMass_pos : 0 < binomialMass n k x := by
  have ways : (0 : ℝ) < n.choose k := by exact_mod_cast Nat.choose_pos bound
  have misses : 0 < 1 - x := sub_pos.mpr below
  unfold binomialMass
  positivity

private theorem binomialMass_le_one : binomialMass n k x ≤ 1 := by
  rw [← sum_binomialMass n x]
  apply Finset.single_le_sum (f := fun k => binomialMass n k x)
  · exact fun i _ => binomialMass_nonneg n i positive.le below.le
  · exact Finset.mem_range_succ_iff.mpr bound

private theorem abs_exp_roundedExponent_le (few : n ≤ 1100)
    (normal : 2 ^ (-1022 : ℤ) ≤ binomialMass n k x) :
    |Real.exp (roundedExponent n k x)| ≤ 2 ^ 2 := by
  have near := (abs_le.mp (abs_roundedExponent_sub_le bound positive below few normal)).2
  have mass := Real.log_nonpos (binomialMass_pos bound positive below).le
    (binomialMass_le_one bound positive below)
  have one : roundedExponent n k x ≤ 1 := by
    norm_num at near
    linarith
  have euler := Real.exp_one_lt_d9
  have raised := Real.exp_le_exp.mpr one
  rw [abs_of_pos (Real.exp_pos _)]
  linarith

/-- The exponential loses little of a term of full precision. -/
theorem abs_roundedByLogarithms_sub_le (few : n ≤ 1100)
    (normal : 2 ^ (-1022 : ℤ) ≤ binomialMass n k x) :
    |roundedByLogarithms n k x - binomialMass n k x| ≤ 2e-11 * binomialMass n k x := by
  have mass := binomialMass_pos bound positive below
  have near := abs_exp_sub_exp_le (abs_roundedExponent_sub_le bound positive below few normal)
    (by norm_num)
  rw [Real.exp_log mass] at near
  have rounded := abs_nearest_sub_le (Real.exp (roundedExponent n k x))
  rw [abs_of_pos (Real.exp_pos _)] at rounded
  have last : lastPlace / 2 ≤ 2 ^ (-53 : ℤ) * binomialMass n k x := by
    rw [lastPlace_div_two]
    exact mul_le_mul_of_nonneg_left normal (zpow_nonneg two_pos.le _)
  have upper := (abs_le.mp near).2
  have whole := abs_sub_le (roundedByLogarithms n k x) (Real.exp (roundedExponent n k x))
    (binomialMass n k x)
  rw [roundedByLogarithms] at whole ⊢
  norm_num at near upper rounded last whole ⊢
  linarith

end Logarithms

/-! ## The term -/

private theorem binomialProduct_of_not_lt {n k : ℕ} (outside : ¬|nearest (n.choose k)| < 2 ^ 1024)
    (p : Rounded tail) : binomialProduct (n.choose k) k p n = .error .integerTooLarge := by
  have cast : ¬|nearest ((n.choose k : ℤ) : ℝ)| < 2 ^ 1024 := by rwa [Int.cast_natCast]
  rw [binomialProduct, ofInt_of_not_lt cast, error_bind]

section Term

variable {n k : ℕ} {x : ℝ} {p : Rounded tail} (bound : k ≤ n) (few : n ≤ 1100)
  (real : p.exact = finite x) (positive : 0 < x) (below : x < 1)
include bound few real positive below

private theorem binomialProduct_of_lt (inside : |nearest (n.choose k)| < 2 ^ 1024) :
    ∃ v : Rounded tail, binomialProduct (n.choose k) k p n = .ok v ∧
      v.exact = finite (roundedProduct n k x) := by
  have double := isDouble_of_exact_eq real
  have misses_pos := nearest_one_sub_pos double positive below
  have misses_le := (nearest_one_sub_mem double positive below).2
  have small : |nearest (1 - x)| < 2 ^ 1024 := by
    rw [abs_of_pos misses_pos]
    exact misses_le.trans_lt (one_lt_pow₀ one_lt_two (by norm_num))
  have cast : |nearest ((n.choose k : ℤ) : ℝ)| < 2 ^ 1024 := by rwa [Int.cast_natCast]
  obtain ⟨count, counted, count_eq⟩ := ofInt_of_lt tail cast
  obtain ⟨hits, raised, hits_eq⟩ := power_of_mem (n := k) (by omega) real positive below.le
  obtain ⟨misses, raised', misses_eq⟩ := power_of_mem (n := n - k) (by omega)
    (exact_sub exact_one real small) misses_pos misses_le
  rw [Int.cast_natCast] at count_eq
  have rest : (n : ℤ) - k = (n - k : ℕ) := (Nat.cast_sub bound).symm
  refine ⟨count * hits * misses, ?_, ?_⟩
  · rw [binomialProduct, rest, counted, raised, raised']
    rfl
  · have ways_nonneg : 0 ≤ nearest (n.choose k) := nearest_nonneg (Nat.cast_nonneg _)
    have first := abs_nearest_mul_lt (isDouble_of_exact_eq count_eq) ways_nonneg
      (nearest_nonneg (pow_nonneg positive.le k)) (nearest_pow_le_one positive.le below.le k)
    have product_eq := exact_mul count_eq hits_eq first
    have second := abs_nearest_mul_lt (isDouble_of_exact_eq product_eq)
      (nearest_nonneg (mul_nonneg ways_nonneg (nearest_nonneg (pow_nonneg positive.le k))))
      (nearest_nonneg (pow_nonneg misses_pos.le (n - k)))
      (nearest_pow_le_one misses_pos.le misses_le (n - k))
    exact exact_mul product_eq misses_eq second

private theorem binomialByLogarithms_of_normal (normal : 2 ^ (-1022 : ℤ) ≤ binomialMass n k x) :
    ∃ v : Rounded tail, binomialByLogarithms (n.choose k) k p n = .ok v ∧
      v.exact = finite (roundedByLogarithms n k x) := by
  have double := isDouble_of_exact_eq real
  have rest : (n : ℤ) - k = (n - k : ℕ) := (Nat.cast_sub bound).symm
  obtain ⟨hits, hits_ok, hits_eq⟩ := ofInt_natCast tail (by omega : k ≤ 2 ^ 53)
  obtain ⟨misses, misses_ok, misses_eq⟩ := ofInt_natCast tail (by omega : n - k ≤ 2 ^ 53)
  -- How large the numbers are that are met on the way.
  have ways_small := abs_log_choose_le bound few
  have hit_small := abs_log_le (double.1.lastPlace_le positive) below.le
  have miss_small := abs_log_le (lastPlace_le_one_sub double positive below)
    (sub_le_self 1 positive.le)
  have hits_small := abs_mul_nearest_le (bound.trans few) hit_small
  have misses_small := abs_mul_nearest_le ((Nat.sub_le n k).trans few) miss_small
  have first_small := abs_nearest_add_nearest_le
    (ways_small.trans (pow_le_pow_right₀ one_le_two (by norm_num))) hits_small
  have second_small := abs_nearest_add_nearest_le first_small
    (misses_small.trans (pow_le_pow_right₀ one_le_two (by norm_num)))
  have exp_small := abs_exp_roundedExponent_le bound positive below few normal
  have miss : 0 < 1 + -x := by linarith
  have log_ways := exact_logOfNat tail (abs_nearest_lt_of_abs_le ways_small (by norm_num))
  have log_hit := exact_log real positive (abs_nearest_lt_of_abs_le hit_small (by norm_num))
  have log_miss := exact_logOnePlus (exact_neg real) miss
    (abs_nearest_lt_of_abs_le miss_small (by norm_num))
  have hits_part := exact_mul hits_eq log_hit (abs_nearest_lt_of_abs_le hits_small (by norm_num))
  have misses_part := exact_mul misses_eq log_miss
    (abs_nearest_lt_of_abs_le misses_small (by norm_num))
  have first := exact_add log_ways hits_part (abs_nearest_lt_of_abs_le first_small (by norm_num))
  have second := exact_add first misses_part
    (abs_nearest_lt_of_abs_le second_small (by norm_num))
  refine ⟨_, ?_, exact_exp second (abs_nearest_lt_of_abs_le exp_small (by norm_num))⟩
  rw [binomialByLogarithms, rest, hits_ok, misses_ok]
  rfl

/-- A product that can be formed is the one of rounded factors. -/
theorem exact_of_binomialProduct {product : Rounded tail}
    (multiplied : binomialProduct (n.choose k) k p n = .ok product) :
    product.exact = finite (roundedProduct n k x) := by
  by_cases inside : |nearest (n.choose k)| < 2 ^ 1024
  · obtain ⟨v, formed, v_eq⟩ := binomialProduct_of_lt bound few real positive below inside
    rw [← Except.ok.inj (formed.symm.trans multiplied)]
    exact v_eq
  · rw [binomialProduct_of_not_lt inside] at multiplied
    cases multiplied

private theorem isOpen : IsOpen (k : ℤ) p (n : ℤ) where
  inRange := by omega
  inUnit := by
    rw [le_iff exact_zero real, le_iff real exact_one]
    exact ⟨positive.le, below.le⟩
  notZero := by
    rw [Scalar.same, Bool.and_eq_true, decide_eq_true_eq, decide_eq_true_eq, le_iff real exact_zero]
    exact fun same => not_lt.mpr same.1 positive
  notOne := by
    rw [Scalar.same, Bool.and_eq_true, decide_eq_true_eq, decide_eq_true_eq, le_iff exact_one real]
    exact fun same => not_lt.mpr same.2 below
  ways := by
    rw [Int.toNat_natCast, Int.toNat_natCast, combinations, Nat.pow_eq, if_neg (by omega)]

/-- The term is the product where that serves, and else the exponential. -/
theorem exists_binomial (normal : 2 ^ (-1022 : ℤ) ≤ binomialMass n k x) :
    ∃ (v : Rounded tail) (value : ℝ), binomial k p n = .ok v ∧ v.exact = finite value ∧
      (ProductServes k p n → value = roundedProduct n k x ∧ 2 ^ (-1022 : ℤ) ≤ value) ∧
      (¬ProductServes k p n → value = roundedByLogarithms n k x) := by
  have isOpen := isOpen bound few real positive below
  obtain ⟨least, least_eq, least_normal, _⟩ := exact_leastNormal tail
  by_cases serves : ProductServes k p n
  · obtain ⟨product, multiplied, enough⟩ := id serves
    have answered := isOpen.binomial_of_serves multiplied enough
    rw [Int.toNat_natCast, Int.toNat_natCast, choose_eq_natChoose bound] at multiplied
    have product_eq := exact_of_binomialProduct bound few real positive below multiplied
    have full := (le_iff least_eq product_eq).mp enough.1
    exact ⟨product, _, answered, product_eq, fun _ => ⟨rfl, least_normal.trans full⟩,
      fun fails => absurd serves fails⟩
  · obtain ⟨term, byLogarithms, term_eq⟩ :=
      binomialByLogarithms_of_normal bound few real positive below normal
    have zero : ¬leastNormal ≤ (0.0 : Rounded tail) := by
      rw [le_iff least_eq exact_zero, not_le]
      exact (zpow_pos two_pos _).trans_le least_normal
    refine ⟨term, _, ?_, term_eq, fun served => absurd served serves, fun _ => rfl⟩
    rw [isOpen.binomial_of_not_serves zero serves, Int.toNat_natCast, Int.toNat_natCast,
      choose_eq_natChoose bound, byLogarithms, lift_ok]

end Term

/-- A binomial term of full precision has an answer. Where the product of the factors serves, that
is the term with what the rounded powers leave of it; elsewhere it is the term. Neither is missed by
more than a small part. So the term is found unless it is a product and one of the powers in it does
not have full precision. -/
theorem binomial_accuracy {k n : ℕ} (bound : k ≤ n) (few : n ≤ 1100) (p : Rounded tail) {x : ℝ}
    (real : p.exact = finite x) (positive : 0 < x) (below : x < 1)
    (normal : 2 ^ (-1022 : ℤ) ≤ binomialMass n k x) :
    ∃ (v : Rounded tail) (value : ℝ), binomial k p n = .ok v ∧ v.exact = finite value ∧
      (ProductServes k p n → |value - keptShare n k x * binomialMass n k x| ≤
        2e-11 * (keptShare n k x * binomialMass n k x)) ∧
      (¬ProductServes k p n → |value - binomialMass n k x| ≤ 2e-11 * binomialMass n k x) ∧
      (2 ^ (-1022 : ℤ) ≤ x ^ k → 2 ^ (-1022 : ℤ) ≤ nearest (1 - x) ^ (n - k) →
        |value - binomialMass n k x| ≤ 1e-10 * binomialMass n k x) := by
  have double := isDouble_of_exact_eq real
  have mass := binomialMass_pos bound positive below
  obtain ⟨v, value, answered, value_eq, product, exponential⟩ :=
    exists_binomial bound few real positive below normal
  have byLogarithms (fails : ¬ProductServes k p n) :
      |value - binomialMass n k x| ≤ 2e-11 * binomialMass n k x := by
    rw [exponential fails]
    exact abs_roundedByLogarithms_sub_le bound positive below few normal
  have kept : 0 ≤ keptShare n k x := keptShare_nonneg double positive below
  refine ⟨v, value, answered, value_eq, fun serves => ?_, byLogarithms, fun hits misses => ?_⟩
  · obtain ⟨rfl, full⟩ := product serves
    have nonneg := (zpow_pos two_pos _).le.trans full
    have scaled := mul_nonneg kept mass.le
    have near := (within_roundedProduct double positive below bound full).abs_sub_le (by omega)
      nonneg scaled
    norm_num at near ⊢
    linarith
  · by_cases serves : ProductServes k p n
    · obtain ⟨rfl, full⟩ := product serves
      have nonneg := (zpow_pos two_pos _).le.trans full
      have whole := (within_keptShare double positive below hits misses).mul_right mass.le
      rw [one_mul] at whole
      have near := ((within_roundedProduct double positive below bound full).trans whole).abs_sub_le
        (by omega) nonneg mass.le
      norm_num at near ⊢
      linarith
    · have near := byLogarithms serves
      norm_num at near ⊢
      linarith

/-! ## A vanishing power -/

section Vanishing

/-- Its twentieth power is a little more than the last place. -/
noncomputable def smallShare : ℝ := 5 * 2 ^ (-56 : ℤ)

private theorem isDouble_smallShare : IsDouble smallShare :=
  isDouble_of_abs_le ⟨5, -56, by norm_num, by norm_num, by norm_num [smallShare]⟩
    (by norm_num [smallShare])

private theorem smallShare_mem : 0 < smallShare ∧ smallShare < 2 ^ (-50 : ℤ) := by
  norm_num [smallShare]

private theorem smallShare_pow : smallShare ^ 20 = 5 ^ 20 / 2 ^ 46 * lastPlace := by
  have exponents : ((2 : ℝ) ^ (-56 : ℤ)) ^ 20 = lastPlace / 2 ^ 46 := by
    rw [lastPlace, ← zpow_natCast, ← zpow_mul, ← zpow_natCast, ← zpow_sub₀ two_ne_zero]
    norm_num
  rw [smallShare, mul_pow, exponents]
  ring

private theorem nearest_smallShare_pow : nearest (smallShare ^ 20) = lastPlace := by
  have place := lastPlace_pos
  have one : Representable lastPlace := representable_two_zpow le_rfl
  have near := abs_nearest_sub_le_abs_sub one (smallShare ^ 20)
  obtain ⟨n, multiple⟩ := (representable_nearest (smallShare ^ 20)).exists_mul_lastPlace
  have apart : |lastPlace - smallShare ^ 20| = (5 ^ 20 / 2 ^ 46 - 1) * lastPlace := by
    rw [smallShare_pow, abs_sub_comm, abs_of_nonneg] <;> norm_num <;> linarith
  rw [apart, multiple, smallShare_pow, ← sub_mul, abs_mul, abs_of_pos place,
    mul_le_mul_iff_left₀ place, abs_le] at near
  norm_num at near
  have above : (0 : ℝ) < n := by linarith
  have below : (n : ℝ) < 2 := by linarith
  obtain rfl : n = 1 := by
    have := Int.cast_pos.mp above
    have : n < 2 := by exact_mod_cast below
    omega
  rw [multiple, Int.cast_one, one_mul]

private theorem two_pow_le_choose : (2 : ℝ) ^ 138 ≤ (1100).choose 20 := by
  have powers : (2 : ℝ) ^ 138 ≤ ((1100 + 1 - 20 : ℕ) : ℝ) ^ 20 / (Nat.factorial 20 : ℕ) := by
    norm_num [Nat.factorial]
  exact powers.trans (Nat.pow_le_choose 20 1100)

private theorem abs_nearest_choose_lt : |nearest ((1100).choose 20)| < 2 ^ 1024 := by
  have powers : ((1100).choose 20 : ℝ) ≤ 1100 ^ 20 := by exact_mod_cast Nat.choose_le_pow 1100 20
  have small : |((1100).choose 20 : ℝ)| ≤ 2 ^ 240 := by
    rw [Nat.abs_cast]
    exact powers.trans (by norm_num)
  exact abs_nearest_lt_of_abs_le small (by norm_num)

/-- The other power is about one. -/
theorem half_le_pow {base : ℝ} (near : 1 - 2 ^ (-12 : ℤ) ≤ base) : 1 / 2 ≤ base ^ 1080 := by
  norm_num at near
  have least : -2 ≤ base - 1 := by linarith
  calc
    1 / 2 ≤ 1 + (1080 : ℕ) * (base - 1) := by
      push_cast
      linarith
    _ ≤ (1 + (base - 1)) ^ 1080 := one_add_mul_le_pow least 1080
    _ = base ^ 1080 := by rw [add_sub_cancel]

private theorem one_sub_smallShare : 1 - 2 ^ (-12 : ℤ) ≤ 1 - smallShare := by
  have small := smallShare_mem.2
  norm_num at small ⊢
  linarith

private theorem half_le_nearest_pow : 1 / 2 ≤ nearest (1 - smallShare) ^ 1080 := by
  apply half_le_pow
  exact le_nearest_of_le ⟨2 ^ 12 - 1, -12, by norm_num, by norm_num, by norm_num⟩
    one_sub_smallShare

private theorem smallShare_normal : 2 ^ (-1022 : ℤ) ≤ binomialMass 1100 20 smallShare := by
  have place := lastPlace_pos
  have hits : lastPlace ≤ smallShare ^ 20 := by
    rw [smallShare_pow]
    norm_num
    linarith
  have misses := half_le_pow one_sub_smallShare
  calc
    (2 : ℝ) ^ (-1022 : ℤ) ≤ 2 ^ (-1021 : ℤ) := zpow_le_zpow_right₀ one_le_two (by norm_num)
    _ = 2 ^ 54 * lastPlace * (1 / 2) := by
      rw [← two_pow_mul_lastPlace]
      ring
    _ ≤ (1100).choose 20 * smallShare ^ 20 * (1 - smallShare) ^ 1080 := by
      have ways : (2 : ℝ) ^ 54 ≤ (1100).choose 20 :=
        (pow_le_pow_right₀ one_le_two (by norm_num)).trans two_pow_le_choose
      gcongr
    _ = binomialMass 1100 20 smallShare := rfl

private theorem two_zpow_le_roundedProduct :
    2 ^ (-1021 : ℤ) ≤ roundedProduct 1100 20 smallShare := by
  have place := lastPlace_pos
  have ways : 2 ^ 54 ≤ nearest ((1100).choose 20) := by
    apply le_nearest_of_le
    · exact_mod_cast representable_two_zpow (by norm_num : -1074 ≤ (54 : ℤ))
    · exact (pow_le_pow_right₀ one_le_two (by norm_num)).trans two_pow_le_choose
  have first : 2 * 2 ^ (-1021 : ℤ) ≤ nearest (nearest ((1100).choose 20) * lastPlace) := by
    have doubled : (2 : ℝ) * 2 ^ (-1021 : ℤ) = 2 ^ (-1020 : ℤ) := by
      rw [← zpow_one_add₀ two_ne_zero]
      norm_num
    apply le_nearest_of_le
    · rw [doubled]
      exact representable_two_zpow (by norm_num)
    · have whole : (2 : ℝ) * 2 ^ 53 = 2 ^ 54 := by norm_num
      rw [← two_pow_mul_lastPlace, ← mul_assoc, whole]
      exact mul_le_mul_of_nonneg_right ways place.le
  have half : 1 / 2 ≤ nearest (nearest (1 - smallShare) ^ 1080) :=
    le_nearest_of_le ⟨1, -1, by norm_num, by norm_num, by norm_num⟩ half_le_nearest_pow
  have positive : (0 : ℝ) < 2 ^ (-1021 : ℤ) := zpow_pos two_pos _
  rw [roundedProduct, nearest_smallShare_pow]
  apply le_nearest_of_le (representable_two_zpow (by norm_num))
  nlinarith

private theorem productServes_smallShare :
    ProductServes (20 : ℕ)
      (⟨finite smallShare, isDouble_smallShare⟩ : Rounded gaussianTail) (1100 : ℕ) := by
  obtain ⟨product, multiplied, product_eq⟩ := binomialProduct_of_lt (by norm_num) le_rfl
    (rfl : (⟨finite smallShare, isDouble_smallShare⟩ : Rounded gaussianTail).exact = _)
    smallShare_mem.1 (smallShare_mem.2.trans (by norm_num)) abs_nearest_choose_lt
  obtain ⟨least, least_eq, _, least_le⟩ := exact_leastNormal gaussianTail
  refine ⟨product, ?_, ?_, isFinite_of_exact_eq product_eq⟩
  · rw [Int.toNat_natCast, Int.toNat_natCast, choose_eq_natChoose (by norm_num)]
    exact multiplied
  · rw [le_iff least_eq product_eq]
    exact least_le.trans two_zpow_le_roundedProduct

private theorem keptShare_smallShare_lt : keptShare 1100 20 smallShare < 3 / 4 := by
  have place := lastPlace_pos
  have above := half_le_nearest_pow
  have positive : 0 < nearest (1 - smallShare) ^ 1080 := one_half_pos.trans_le above
  have rest : nearest (nearest (1 - smallShare) ^ 1080) / nearest (1 - smallShare) ^ 1080 ≤
      growth := by
    rw [div_le_iff₀ positive]
    have normal : (2 : ℝ) ^ (-1022 : ℤ) ≤ nearest (1 - smallShare) ^ 1080 := by
      refine le_trans ?_ above
      rw [one_div, ← zpow_neg_one]
      exact zpow_le_zpow_right₀ one_le_two (by norm_num)
    have near := Within.of_normal positive.le
      (le_nearest_of_le (representable_two_zpow (by norm_num)) normal)
    simpa using near.1
  have lost : lastPlace / smallShare ^ 20 = 2 ^ 46 / 5 ^ 20 := by
    rw [smallShare_pow]
    field_simp
  have growth_lt : growth < 101 / 100 := by norm_num [growth]
  rw [keptShare, nearest_smallShare_pow, lost]
  norm_num at rest ⊢
  linarith

/-- More than a fifth of a term of full precision is lost with the digits of one power. -/
theorem binomial_vanishingPower :
    2 ^ (-1022 : ℤ) ≤ binomialMass 1100 20 smallShare ∧
      ∃ (v : Rounded gaussianTail) (value : ℝ),
        binomial (20 : ℕ) ⟨finite smallShare, isDouble_smallShare⟩ (1100 : ℕ) = .ok v ∧
          v.exact = finite value ∧
            1 / 5 * binomialMass 1100 20 smallShare <
              |value - binomialMass 1100 20 smallShare| := by
  have normal := smallShare_normal
  obtain ⟨v, value, answered, value_eq, product, _⟩ := binomial_accuracy (by norm_num) le_rfl
    (⟨finite smallShare, isDouble_smallShare⟩ : Rounded gaussianTail) rfl smallShare_mem.1
    (smallShare_mem.2.trans (by norm_num)) normal
  have near := (abs_le.mp (product productServes_smallShare)).2
  have mass := (zpow_pos two_pos _).trans_le normal
  have part := mul_lt_mul_of_pos_right keptShare_smallShare_lt mass
  refine ⟨normal, v, value, answered, value_eq, ?_⟩
  rw [abs_sub_comm]
  refine lt_of_lt_of_le ?_ (le_abs_self _)
  norm_num at near
  linarith

end Vanishing

end WifiLink
