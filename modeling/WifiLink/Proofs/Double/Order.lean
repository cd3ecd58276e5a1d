import Mathlib
import WifiLink.Double.Arithmetic

/-!
# The order of doubles

Doubles are ordered by their signs, then by their exponents, then by their significands. What is no
number is in no order, two zeros are in one place, and every other place has one double.
-/

namespace WifiLink.Double

open Float.Model Float.Model.UnpackedFloat

/-! ## Bits -/

/-- The parts of an unpacked double. -/
def Parts.ofUnpacked : UnpackedFloat → Parts
  | .infinity sign => .infinite (sign == .negative)
  | .zero sign => .finite (sign == .negative) 0 (-1074)
  | .finite sign mantissa exponent _ => .finite (sign == .negative) mantissa exponent
  | .notANumber => .notANumber

section Fields

variable (bits : BitVec Format.binary64.numBits)

theorem sign_unpackSign :
    (Sign.ofBitVec (unpackSign bits) == .negative) = (bits.toNat / 2 ^ 63 % 2 == 1) := by
  have field : (unpackSign bits).toNat = bits.toNat / 2 ^ 63 % 2 := by
    rw [unpackSign, BitVec.toNat_cast, BitVec.extractLsb_toNat, Nat.shiftRight_eq_div_pow]
    rfl
  rw [← field]
  generalize unpackSign bits = bit
  revert bit
  decide

theorem toNat_unpackExponent : (unpackExponent bits).toNat = bits.toNat / 2 ^ 52 % 2 ^ 11 := by
  rw [unpackExponent, BitVec.toNat_cast, BitVec.extractLsb_toNat, Nat.shiftRight_eq_div_pow]
  rfl

theorem toNat_unpackMantissa : (unpackMantissa bits).toNat = bits.toNat % 2 ^ 52 := by
  rw [unpackMantissa, BitVec.toNat_cast, BitVec.extractLsb_toNat, Nat.shiftRight_zero]
  rfl

theorem unpackExponent_eq_ones_iff :
    unpackExponent bits = -1#_ ↔ bits.toNat / 2 ^ 52 % 2 ^ 11 = 2047 := by
  rw [← toNat_unpackExponent, ← BitVec.toNat_inj]
  rfl

theorem unpackExponent_eq_zero_iff :
    unpackExponent bits = 0#_ ↔ bits.toNat / 2 ^ 52 % 2 ^ 11 = 0 := by
  rw [← toNat_unpackExponent, ← BitVec.toNat_inj]
  rfl

theorem unpackMantissa_eq_zero_iff : unpackMantissa bits = 0#_ ↔ bits.toNat % 2 ^ 52 = 0 := by
  rw [← toNat_unpackMantissa, ← BitVec.toNat_inj]
  rfl

end Fields

/-- A normal significand has a leading bit that is not stored. -/
theorem toNat_one_append {size : ℕ} (mantissa : BitVec size) :
    (1#1 ++ mantissa).toNat = mantissa.toNat + 2 ^ size := by
  rw [BitVec.toNat_append, ← Nat.shiftLeft_add_eq_or_of_lt mantissa.isLt, BitVec.toNat_one one_pos,
    Nat.one_shiftLeft, Nat.add_comm]

/-- The parts of a double are what it unpacks to. -/
theorem parts_eq (x : Float) : parts x = .ofUnpacked x.toModel.unpack := by
  obtain ⟨⟨⟨bits⟩, _⟩⟩ := x
  have bias : (Format.binary64.exponentBias : ℤ) = 1023 := by decide
  change Parts.ofBits bits.toNat = .ofUnpacked (UnpackedFloat.unpack .binary64 bits)
  simp only [Parts.ofBits, UnpackedFloat.unpack, Nat.pow_eq, ← sign_unpackSign]
  by_cases special : bits.toNat / 2 ^ 52 % 2 ^ 11 = 2047
  · rw [if_pos special, if_pos ((unpackExponent_eq_ones_iff bits).mpr special)]
    by_cases null : bits.toNat % 2 ^ 52 = 0
    · rw [if_pos null, if_pos ((unpackMantissa_eq_zero_iff bits).mpr null)]
      rfl
    · rw [if_neg null, if_neg (mt (unpackMantissa_eq_zero_iff bits).mp null)]
      rfl
  rw [if_neg special, if_neg (mt (unpackExponent_eq_ones_iff bits).mp special)]
  by_cases small : bits.toNat / 2 ^ 52 % 2 ^ 11 = 0
  · rw [if_pos small, if_pos ((unpackExponent_eq_zero_iff bits).mpr small)]
    by_cases null : bits.toNat % 2 ^ 52 = 0
    · rw [dif_pos ((unpackMantissa_eq_zero_iff bits).mpr null), null]
      rfl
    · rw [dif_neg (mt (unpackMantissa_eq_zero_iff bits).mp null), Parts.ofUnpacked,
        toNat_unpackMantissa, toNat_unpackExponent, bias, small]
      rfl
  · rw [if_neg small, if_neg (mt (unpackExponent_eq_zero_iff bits).mp small), Parts.ofUnpacked,
      toNat_one_append, toNat_unpackMantissa, toNat_unpackExponent, bias]
    rfl

theorem Parts.ofBits_injective {bits bits' : ℕ} (bound : bits < 2 ^ 64) (bound' : bits' < 2 ^ 64)
    (number : ofBits bits ≠ .notANumber) (equal : ofBits bits = ofBits bits') : bits = bits' := by
  simp only [ofBits, Nat.pow_eq] at equal number
  split_ifs at equal number <;> simp at * <;> omega

/-- A double that is a number is known by what it unpacks to. -/
theorem eq_of_unpack_eq {x y : Float} (number : x.toModel.unpack ≠ .notANumber)
    (equal : x.toModel.unpack = y.toModel.unpack) : x = y := by
  have known : parts x ≠ .notANumber := by
    rw [parts_eq]
    cases unpacked : x.toModel.unpack with
    | notANumber => exact absurd unpacked number
    | infinity | zero | finite => exact nofun
  have bits : x.toBits.toNat = y.toBits.toNat := by
    refine Parts.ofBits_injective x.toBits.toNat_lt y.toBits.toNat_lt known ?_
    change parts x = parts y
    rw [parts_eq, parts_eq, equal]
  obtain ⟨⟨_, _⟩⟩ := x
  obtain ⟨⟨_, _⟩⟩ := y
  obtain rfl := UInt64.toNat_inj.mp bits
  rfl

/-! ## Places -/

/-- Where the zeros stand. -/
def origin : ℤ ×ₗ ℤ ×ₗ ℤ := toLex (0, toLex (0, 0))

/-- Where an unpacked double stands in the order. -/
def place : UnpackedFloat → Option (ℤ ×ₗ ℤ ×ₗ ℤ)
  | .infinity .negative => some (toLex (-2, toLex (0, 0)))
  | .finite .negative mantissa exponent _ => some (toLex (-1, toLex (-exponent, -mantissa)))
  | .zero _ => some origin
  | .finite .positive mantissa exponent _ => some (toLex (1, toLex (exponent, mantissa)))
  | .infinity .positive => some (toLex (2, toLex (0, 0)))
  | .notANumber => none

theorem compare_toLex (sign exponent exponent' mantissa mantissa' : ℤ) :
    compare (toLex (sign, toLex (exponent, mantissa)))
        (toLex (sign, toLex (exponent', mantissa'))) =
      (compare exponent exponent').then (compare mantissa mantissa') := by
  simp [Prod.Lex.compare_def, compareLex, compareOn]

theorem compare_neg_neg (a b : ℤ) : compare (-a) (-b) = compare b a := by
  simp [compare, compareOfLessAndEq, eq_comm]

theorem compare_natCast (m n : ℕ) : compare (m : ℤ) n = compare m n := by
  simp [compare, compareOfLessAndEq]

/-- Doubles compare as their places do. -/
theorem compare_eq (x y : UnpackedFloat) :
    x.compare y = (place x).bind fun p => (place y).map fun q => compare p q := by
  -- Two finite doubles of one sign are left, all others are told apart by their kinds.
  rcases x with (_ | _) | _ | _ | ⟨_ | _, mantissa, exponent, _⟩ <;>
  rcases y with (_ | _) | _ | _ | ⟨_ | _, mantissa', exponent', _⟩ <;>
  try rfl
  · rw [UnpackedFloat.compare, place, place, Option.bind_some, Option.map_some, compare_toLex,
      compare_neg_neg, compare_neg_neg, compare_natCast, Ordering.swap_then,
      ← Std.OrientedOrd.eq_swap, ← Std.OrientedOrd.eq_swap]
  · rw [UnpackedFloat.compare, place, place, Option.bind_some, Option.map_some, compare_toLex,
      compare_natCast]

section Place

variable {x y : UnpackedFloat} {p : ℤ ×ₗ ℤ ×ₗ ℤ}

theorem positive_of_place (above : origin < p) (stands : place x = some p) :
    x = .infinity .positive ∧ p = toLex (2, toLex (0, 0)) ∨
      ∃ mantissa exponent nonzero, x = .finite .positive mantissa exponent nonzero ∧
        p = toLex (1, toLex (exponent, (mantissa : ℤ))) := by
  rcases x with (_ | _) | _ | _ | ⟨_ | _, mantissa, exponent, nonzero⟩ <;> cases stands
  · exact absurd above (by decide)
  · exact .inl ⟨rfl, rfl⟩
  · exact absurd above (lt_irrefl _)
  · simp [origin, Prod.Lex.toLex_lt_toLex] at above
  · exact .inr ⟨mantissa, exponent, nonzero, rfl, rfl⟩

/-- Above zero, a place has one double. -/
theorem eq_of_place (above : origin < p) (first : place x = some p) (second : place y = some p) :
    x = y := by
  rcases positive_of_place above first with ⟨rfl, rfl⟩ | ⟨mantissa, exponent, _, rfl, rfl⟩ <;>
  rcases positive_of_place above second with ⟨rfl, equal⟩ | ⟨mantissa', exponent', _, rfl, equal⟩
  · rfl
  · simp at equal
  · simp at equal
  · simp only [toLex_inj, Prod.mk.injEq, Nat.cast_inj, true_and] at equal
    obtain ⟨rfl, rfl⟩ := equal
    rfl

end Place

/-- Where a double stands. -/
def rank (x : Float) : Option (ℤ ×ₗ ℤ ×ₗ ℤ) := place x.toModel.unpack

variable {x y z : Float}

theorem le_iff : x ≤ y ↔ ∃ p ∈ rank x, ∃ q ∈ rank y, p ≤ q := by
  have model : x ≤ y ↔ (x.toModel.unpack.compare y.toModel.unpack).any (·.isLE) = true :=
    decide_eq_true_iff
  rw [model, compare_eq, rank, rank]
  cases place x.toModel.unpack <;> cases place y.toModel.unpack <;>
    simp [← Ordering.ne_gt_iff_isLE, compare_le_iff_le]

theorem lt_iff : x < y ↔ ∃ p ∈ rank x, ∃ q ∈ rank y, p < q := by
  have model : x < y ↔ (x.toModel.unpack.compare y.toModel.unpack == some .lt) = true :=
    decide_eq_true_iff
  rw [model, compare_eq, rank, rank]
  cases place x.toModel.unpack <;> cases place y.toModel.unpack <;> simp [compare_lt_iff_lt]

theorem not_lt_of_le (below : x ≤ y) : ¬y < x := by
  intro above
  obtain ⟨p, standsX, q, standsY, order⟩ := le_iff.mp below
  obtain ⟨q', standsY', p', standsX', order'⟩ := lt_iff.mp above
  obtain rfl := Option.mem_unique standsX standsX'
  obtain rfl := Option.mem_unique standsY standsY'
  exact order.not_gt order'

theorem le_trans (first : x ≤ y) (second : y ≤ z) : x ≤ z := by
  obtain ⟨p, standsX, q, standsY, order⟩ := le_iff.mp first
  obtain ⟨q', standsY', r, standsZ, order'⟩ := le_iff.mp second
  obtain rfl := Option.mem_unique standsY standsY'
  exact le_iff.mpr ⟨p, standsX, r, standsZ, order.trans order'⟩

theorem lt_of_le_of_lt (first : x ≤ y) (second : y < z) : x < z := by
  obtain ⟨p, standsX, q, standsY, order⟩ := le_iff.mp first
  obtain ⟨q', standsY', r, standsZ, order'⟩ := lt_iff.mp second
  obtain rfl := Option.mem_unique standsY standsY'
  exact lt_iff.mpr ⟨p, standsX, r, standsZ, order.trans_lt order'⟩

theorem rank_zero : rank 0.0 = some origin := by
  rfl

/-- Positive doubles that the order does not tell apart are one. -/
theorem eq_of_le_of_not_lt (positive : ¬x ≤ 0.0) (below : x ≤ y) (apart : ¬x < y) : x = y := by
  obtain ⟨p, standsX, q, standsY, order⟩ := le_iff.mp below
  have above : origin < p := by
    by_contra under
    exact positive (le_iff.mpr ⟨p, standsX, origin, rank_zero, not_lt.mp under⟩)
  have equal : p = q := by
    by_contra different
    exact apart (lt_iff.mpr ⟨p, standsX, q, standsY, lt_of_le_of_ne order different⟩)
  subst equal
  refine eq_of_unpack_eq ?_ (eq_of_place above standsX standsY)
  intro missing
  rw [rank, missing] at standsX
  cases standsX

end WifiLink.Double
