import Mathlib
import WifiLink.Scalar

/-!
# Exact numbers

The numbers that statements about formulas are made for: the real line with two infinities and a
missing number, computed with as doubles are but without rounding. There is one zero.

The complementary error function is left open. It is any map of the numbers from zero to infinity
into the unit interval, and a statement adds what it needs, such as that the map is antitone.
-/

namespace WifiLink

section Numerals

-- A real numeral holds a proof that it is two or more. With a name, the proof and so the numeral
-- are one term in the definitions of every module.

instance atLeastTwo_two : Nat.AtLeastTwo 2 := ⟨le_rfl⟩

instance atLeastTwo_three : Nat.AtLeastTwo 3 := ⟨by decide⟩

instance atLeastTwo_four : Nat.AtLeastTwo 4 := ⟨by decide⟩

instance atLeastTwo_twenty : Nat.AtLeastTwo 20 := ⟨by decide⟩

end Numerals

/-- What may stand for the complementary error function on the numbers from zero to infinity. -/
abbrev ErrorTail := ENNReal → unitInterval

/-- A real number, a signed infinity, or no number. -/
inductive Exact (tail : ErrorTail) where
  | finite (value : ℝ)
  | infinite (negative : Bool)
  | notANumber

namespace Exact

variable {tail : ErrorTail}

/-! ## Arithmetic and order -/

def negate : Exact tail → Exact tail
  | finite x => finite (-x)
  | infinite negative => infinite (!negative)
  | notANumber => notANumber

/-- Infinities of opposite signs have no sum. -/
def add : Exact tail → Exact tail → Exact tail
  | finite x, finite y => finite (x + y)
  | finite _, infinite negative => infinite negative
  | infinite negative, finite _ => infinite negative
  | infinite left, infinite right => if left = right then infinite left else notANumber
  | _, _ => notANumber

/-- An infinity stretched by a real number; zero gives no number. -/
noncomputable def stretch (negative : Bool) (x : ℝ) : Exact tail :=
  if x = 0 then notANumber else infinite (negative != decide (x < 0))

noncomputable def mul : Exact tail → Exact tail → Exact tail
  | finite x, finite y => finite (x * y)
  | finite x, infinite negative => stretch negative x
  | infinite negative, finite x => stretch negative x
  | infinite left, infinite right => infinite (left != right)
  | _, _ => notANumber

/-- Division by zero gives an infinity of the dividend's sign. -/
noncomputable def div : Exact tail → Exact tail → Exact tail
  | finite x, finite y =>
      if y = 0 then (if x = 0 then notANumber else infinite (decide (x < 0))) else finite (x / y)
  | finite _, infinite _ => finite 0
  | infinite negative, finite x => infinite (negative != decide (x < 0))
  | _, _ => notANumber

/-- What is no number compares with nothing. -/
def atMost : Exact tail → Exact tail → Prop
  | finite x, finite y => x ≤ y
  | finite _, infinite negative => negative = false
  | infinite negative, finite _ => negative = true
  | infinite left, infinite right => left = true ∨ right = false
  | _, _ => False

def below : Exact tail → Exact tail → Prop
  | finite x, finite y => x < y
  | finite _, infinite negative => negative = false
  | infinite negative, finite _ => negative = true
  | infinite left, infinite right => left = true ∧ right = false
  | _, _ => False

/-! ## Functions -/

/-- The value of a spelled number. -/
noncomputable def ofNumeral : Numeral → Exact tail
  | .finite negative digits exponent =>
      finite ((if negative then -1 else 1) * digits * (10 : ℝ) ^ exponent)
  | .infinite negative => infinite negative
  | .notANumber => notANumber

noncomputable def floor : Exact tail → Except ArithmeticFault Int
  | finite x => .ok ⌊x⌋
  | infinite _ => .error .floorOfInfinity
  | notANumber => .error .floorOfNotANumber

/-- Zero has no negative power, and the power zero of anything is one. -/
noncomputable def power : Exact tail → Int → Except ArithmeticFault (Exact tail)
  | finite x, n => if x = 0 ∧ n < 0 then .error .zeroToNegativePower else .ok (finite (x ^ n))
  | infinite negative, n =>
      .ok <|
        if n = 0 then finite 1
        else if n < 0 then finite 0
        else infinite (negative && decide (n % 2 = 1))
  | notANumber, n => .ok (if n = 0 then finite 1 else notANumber)

noncomputable def sqrt : Exact tail → Exact tail
  | finite x => if x < 0 then notANumber else finite (Real.sqrt x)
  | infinite negative => if negative then notANumber else infinite false
  | notANumber => notANumber

/-- Below zero by reflection about one. -/
noncomputable def erfc : Exact tail → Exact tail
  | finite x =>
      if x < 0 then finite (2 - tail (ENNReal.ofReal (-x))) else finite (tail (ENNReal.ofReal x))
  | infinite negative => if negative then finite (2 - tail ⊤) else finite (tail ⊤)
  | notANumber => notANumber

/-- A power of a positive base: it vanishes at minus infinity. -/
noncomputable def exponential (base : ℝ) : Exact tail → Exact tail
  | finite x => finite (base ^ x)
  | infinite negative => if negative then finite 0 else infinite false
  | notANumber => notANumber

noncomputable def log : Exact tail → Exact tail
  | finite x => if x < 0 then notANumber else if x = 0 then infinite true else finite (Real.log x)
  | infinite negative => if negative then notANumber else infinite false
  | notANumber => notANumber

end Exact

noncomputable instance (tail : ErrorTail) : Scalar (Exact tail) where
  add := Exact.add
  sub x y := Exact.add x (Exact.negate y)
  mul := Exact.mul
  div := Exact.div
  neg := Exact.negate
  ofScientific mantissa negative exponent :=
    .finite (OfScientific.ofScientific mantissa negative exponent)
  lt := Exact.below
  le := Exact.atMost
  decidableLT _ _ := Classical.propDecidable _
  decidableLE _ _ := Classical.propDecidable _
  ofInt n := .ok (.finite n)
  ofNumeral := Exact.ofNumeral
  room := .ok
  floor := Exact.floor
  power := Exact.power
  tenToThe := Exact.exponential 10
  sqrt := Exact.sqrt
  erfc := Exact.erfc
  exp := Exact.exponential (Real.exp 1)
  log := Exact.log
  logOnePlus x := Exact.log (Exact.add (.finite 1) x)
  logOfNat n := .finite (Real.log n)
  logTwoOfNat n := .finite (Real.logb 2 n)

namespace Exact

variable {tail : ErrorTail}

/-! ## Real numbers among exact ones -/

section Finite

variable (x y : ℝ)

@[simp]
theorem ofScientific_eq
    (mantissa : Nat) (negative : Bool) (exponent : Nat) :
    (OfScientific.ofScientific mantissa negative exponent : Exact tail) =
      finite (OfScientific.ofScientific mantissa negative exponent) :=
  rfl

theorem zero_eq_finite : (0.0 : Exact tail) = finite 0 := by
  norm_num

theorem one_eq_finite : (1.0 : Exact tail) = finite 1 := by
  norm_num

theorem twenty_eq_finite : (20.0 : Exact tail) = finite 20 := by
  norm_num

@[simp]
theorem neg_finite : -(finite x : Exact tail) = finite (-x) :=
  rfl

@[simp]
theorem finite_add_finite :
    (finite x : Exact tail) + finite y = finite (x + y) :=
  rfl

@[simp]
theorem finite_sub_finite :
    (finite x : Exact tail) - finite y = finite (x - y) := by
  rw [sub_eq_add_neg]
  rfl

@[simp]
theorem finite_mul_finite :
    (finite x : Exact tail) * finite y = finite (x * y) :=
  rfl

theorem finite_div_finite {y : ℝ} (nonzero : y ≠ 0) :
    (finite x : Exact tail) / finite y = finite (x / y) :=
  if_neg nonzero

@[simp]
theorem finite_le_finite :
    (finite x : Exact tail) ≤ finite y ↔ x ≤ y :=
  Iff.rfl

@[simp]
theorem finite_lt_finite :
    (finite x : Exact tail) < finite y ↔ x < y :=
  Iff.rfl

theorem finite_nonpos_iff : (finite x : Exact tail) ≤ 0.0 ↔ x ≤ 0 := by
  rw [zero_eq_finite, finite_le_finite]

@[simp]
theorem isNaN_finite : Scalar.isNaN (finite x : Exact tail) = false := by
  simp [Scalar.isNaN]

@[simp]
theorem same_finite :
    Scalar.same (finite x : Exact tail) (finite y) = decide (x = y) := by
  simp [Scalar.same, ← Bool.decide_and, le_antisymm_iff]

/-- Of exact numbers just the equal ones are the same by the order. -/
theorem eq_of_same {x y : Exact tail} (same : Scalar.same x y) : x = y := by
  rw [Scalar.same, Bool.and_eq_true, decide_eq_true_eq, decide_eq_true_eq] at same
  obtain ⟨upper, lower⟩ := same
  cases x with
  | finite x =>
      cases y with
      | finite y =>
          rw [le_antisymm ((finite_le_finite x y).mp upper) ((finite_le_finite y x).mp lower)]
      | infinite negative => exact absurd (Eq.trans (Eq.symm upper) lower) Bool.false_ne_true
      | notANumber => exact upper.elim
  | infinite left =>
      cases y with
      | finite y => exact absurd (Eq.trans (Eq.symm lower) upper) Bool.false_ne_true
      | infinite right =>
          have forward : left = true ∨ right = false := upper
          have backward : right = true ∨ left = false := lower
          grind
      | notANumber => exact upper.elim
  | notANumber => cases y <;> exact upper.elim

@[simp]
theorem least_finite :
    Scalar.least (finite x : Exact tail) (finite y) = finite (min x y) := by
  unfold Scalar.least
  split_ifs with second
  · rw [min_eq_right (le_of_lt second)]
  · rw [min_eq_left (not_lt.mp second)]

@[simp]
theorem ofInt_eq (n : Int) :
    (Scalar.ofInt n : Except ArithmeticFault (Exact tail)) = .ok (finite n) :=
  rfl

theorem power_finite {n : Int} (defined : x ≠ 0 ∨ 0 ≤ n) :
    Scalar.power (finite x : Exact tail) n = .ok (finite (x ^ n)) :=
  if_neg fun both => defined.elim (· both.1) (not_le.mpr both.2)

@[simp]
theorem floor_finite :
    Scalar.floor (finite x : Exact tail) = .ok ⌊x⌋ :=
  rfl

theorem floor_eq_ok {x : Exact tail} {n : Int} (answered : Scalar.floor x = .ok n) :
    ∃ r : ℝ, x = finite r ∧ n = ⌊r⌋ := by
  cases x with
  | finite r => exact ⟨r, rfl, (Except.ok.inj answered).symm⟩
  | infinite negative => cases answered
  | notANumber => cases answered

theorem logTwo_of_pos {n : Int} (positive : 0 < n) :
    (Scalar.logTwo n : Except ArithmeticFault (Exact tail)) =
      .ok (finite (Real.logb 2 n)) := by
  have cast : ((n.toNat : ℕ) : ℝ) = n := by
    exact_mod_cast Int.toNat_of_nonneg positive.le
  rw [Scalar.logTwo, if_neg (not_le.mpr positive), ← cast]
  rfl

theorem mul_infinite_div_ne_finite (negative : Bool) (quotient : ℝ) :
    (finite x * infinite negative / finite y : Exact tail) ≠ finite quotient := by
  intro equality
  change Exact.div (stretch negative x) (finite y) = finite quotient at equality
  unfold stretch at equality
  split_ifs at equality <;> cases equality

end Finite

/-! ## What no number leads to -/

section NotANumber

variable (x : Exact tail)

@[simp]
theorem notANumber_add : notANumber + x = notANumber := by
  cases x <;> rfl

@[simp]
theorem add_notANumber : x + notANumber = notANumber := by
  cases x <;> rfl

@[simp]
theorem sub_notANumber : x - notANumber = notANumber := by
  cases x <;> rfl

@[simp]
theorem notANumber_mul : notANumber * x = notANumber := by
  cases x <;> rfl

@[simp]
theorem mul_notANumber : x * notANumber = notANumber := by
  cases x <;> rfl

@[simp]
theorem notANumber_div : notANumber / x = notANumber := by
  cases x <;> rfl

@[simp]
theorem div_notANumber : x / notANumber = notANumber := by
  cases x <;> rfl

theorem not_notANumber_le : ¬notANumber ≤ x := by
  cases x <;> exact id

theorem not_le_notANumber : ¬x ≤ notANumber := by
  cases x <;> exact id

end NotANumber

/-! ## Order -/

section Order

variable {x y z : Exact tail}

theorem atMost_trans (first : x ≤ y) (second : y ≤ z) : x ≤ z := by
  have lower : atMost x y := first
  have upper : atMost y z := second
  change atMost x z
  cases x <;> cases y <;> cases z <;> simp_all only [atMost] <;> grind

theorem below_of_below_of_atMost (first : x < y) (second : y ≤ z) : x < z := by
  have lower : below x y := first
  have upper : atMost y z := second
  change below x z
  cases x <;> cases y <;> cases z <;> simp_all only [atMost, below] <;> grind

theorem below_of_atMost_of_below (first : x ≤ y) (second : y < z) : x < z := by
  have lower : atMost x y := first
  have upper : below y z := second
  change below x z
  cases x <;> cases y <;> cases z <;> simp_all only [atMost, below] <;> grind

theorem not_below_of_atMost (atMost : y ≤ x) : ¬x < y := by
  intro below
  have lower : Exact.below x y := below
  have upper : Exact.atMost y x := atMost
  cases x <;> cases y <;> simp_all only [Exact.atMost, Exact.below] <;> grind

theorem eq_of_atMost_of_not_below (ordered : x ≤ y) (apart : ¬x < y) : x = y := by
  have upper : atMost x y := ordered
  have lower : ¬below x y := apart
  cases x <;> cases y <;> simp_all only [atMost, below] <;> grind

/-- What an end lies above another by at most a precision, it is reached from there. -/
theorem finite_le_add {low high : ℝ} {precision : Exact tail}
    (narrow : finite (high - low) ≤ precision) :
    finite high ≤ finite low + precision := by
  cases precision with
  | finite step =>
      have real : high - low ≤ step := narrow
      rw [finite_add_finite, finite_le_finite]
      linarith
  | infinite negative => exact narrow
  | notANumber => exact absurd narrow (not_le_notANumber _)

theorem finite_add_mono {low high : ℝ} {precision : Exact tail}
    (defined : precision ≠ notANumber) (ordered : low ≤ high) :
    finite low + precision ≤ finite high + precision := by
  cases precision with
  | finite step =>
      rw [finite_add_finite, finite_add_finite, finite_le_finite]
      linarith
  | infinite negative =>
      cases negative with
      | true => exact Or.inl rfl
      | false => exact Or.inr rfl
  | notANumber => exact absurd rfl defined

end Order

end Exact

end WifiLink
