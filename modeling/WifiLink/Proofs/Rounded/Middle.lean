import Mathlib
import WifiLink.Proofs.Rounded.Nearest

/-!
# Middles of doubles

The middle of two numbers is found in three calculations, each of them rounded: their distance,
half of it, and the lower number with that added. It lies strictly between the two wherever some
representable number does; otherwise the two are neighbours.
-/

namespace WifiLink

/-- Half of the distance of two numbers. -/
noncomputable def roundedHalf (low high : ℝ) : ℝ := nearest (nearest (high - low) / 2)

noncomputable def roundedMiddle (low high : ℝ) : ℝ := nearest (low + roundedHalf low high)

/-- A representable number lies strictly between. -/
def HasRoom (low high : ℝ) : Prop := ∃ middle, Representable middle ∧ low < middle ∧ middle < high

variable {low high middle : ℝ}

/-! ## Halves -/

theorem roundedHalf_nonneg (ordered : low ≤ high) : 0 ≤ roundedHalf low high :=
  nearest_nonneg (div_nonneg (nearest_nonneg (sub_nonneg.mpr ordered)) two_pos.le)

/-- Of a distance that is kept, half of the last place may be added to the half. -/
theorem roundedHalf_le_of_multiple
    {n : ℤ} (short : |n| ≤ 2 ^ 53) (distance : high - low = n * lastPlace) :
    roundedHalf low high ≤ ((n + 1) / 2 : ℤ) * lastPlace := by
  have kept := representable_mul_lastPlace short
  have next : Representable (((n + 1) / 2 : ℤ) * lastPlace) := by
    apply representable_mul_lastPlace
    rw [abs_le] at short ⊢
    omega
  have above : (n : ℝ) ≤ 2 * ((n + 1) / 2 : ℤ) := by
    have : n ≤ 2 * ((n + 1) / 2) := by omega
    exact_mod_cast this
  have place := lastPlace_pos
  rw [roundedHalf, distance, nearest_of_representable kept]
  apply nearest_le_of_le next
  nlinarith

/-- A distance with a bit to spare is rounded, but halved without a loss. -/
theorem two_mul_roundedHalf_of_far (far : 2 ^ (-1021 : ℤ) ≤ high - low) :
    2 * roundedHalf low high = nearest (high - low) := by
  have full := le_nearest_of_le (representable_two_zpow (by norm_num)) far
  have halved : Representable (nearest (high - low) / 2) :=
    (representable_nearest _).half (full.trans (le_abs_self _))
  rw [roundedHalf, nearest_of_representable halved, mul_div_cancel₀ _ two_ne_zero]

theorem abs_nearest_sub_sub_le (far : 2 ^ (-1021 : ℤ) ≤ high - low) :
    |nearest (high - low) - (high - low)| ≤ 2 ^ (-53 : ℤ) * (high - low) := by
  have positive : 0 < high - low := (zpow_pos two_pos _).trans_le far
  have normal : (2 : ℝ) ^ (-1022 : ℤ) ≤ |high - low| := by
    rw [abs_of_pos positive]
    exact (zpow_le_zpow_right₀ one_le_two (by norm_num)).trans far
  have near := abs_nearest_sub_le_of_normal normal
  rwa [abs_of_pos positive] at near

/-- Were the middle the upper end, no number would lie above the lower end by more than what is
added to the half. -/
theorem le_add_of_high_le_roundedMiddle
    {excess : ℝ} (half : 2 * roundedHalf low high ≤ high - low + excess)
    (reached : high ≤ roundedMiddle low high) (inside : Representable middle)
    (below : middle < high) : middle ≤ low + excess := by
  have past : middle < low + roundedHalf low high := by
    by_contra before
    have := nearest_le_of_le inside (not_lt.mp before)
    exact absurd (reached.trans this) (not_le.mpr below)
  have near := abs_nearest_sub_le_abs_sub inside (low + roundedHalf low high)
  rw [abs_sub_comm middle, abs_of_pos (sub_pos.mpr past)] at near
  have apart := le_abs_self (nearest (low + roundedHalf low high) - (low + roundedHalf low high))
  have further : high ≤ nearest (low + roundedHalf low high) := reached
  linarith

/-- Between ends whose distance is kept, and so is its half, the middle is exact before it is
rounded. -/
theorem roundedMiddle_lt_of_exact (room : HasRoom low high)
    (exactly : 2 * roundedHalf low high = high - low) : roundedMiddle low high < high := by
  by_contra reached
  obtain ⟨middle, inside, above, below⟩ := room
  have none : middle ≤ low + 0 :=
    le_add_of_high_le_roundedMiddle (by linarith) (not_lt.mp reached) inside below
  linarith

section Ends

variable (representable : Representable low) (representable' : Representable high)
include representable representable'

/-- The ends are few last places apart, or their distance has a bit to spare. -/
theorem exists_multiples_or_far (ordered : low ≤ high) :
    (∃ first last : ℤ, low = first * lastPlace ∧ high = last * lastPlace ∧
      |last - first| ≤ 2 ^ 53) ∨ 2 ^ (-1021 : ℤ) ≤ high - low := by
  obtain ⟨first, rfl⟩ := representable.exists_mul_lastPlace
  obtain ⟨last, rfl⟩ := representable'.exists_mul_lastPlace
  have place := lastPlace_pos
  have nonneg : 0 ≤ last - first := by
    rw [mul_le_mul_iff_left₀ place] at ordered
    exact sub_nonneg.mpr (Int.cast_le.mp ordered)
  rcases le_or_gt (last - first) (2 ^ 53) with short | long
  · exact Or.inl ⟨first, last, rfl, rfl, by rwa [abs_of_nonneg nonneg]⟩
  · right
    rw [← two_pow_mul_lastPlace, ← sub_mul]
    apply mul_le_mul_of_nonneg_right _ place.le
    exact_mod_cast long.le

theorem roundedHalf_le (ordered : low ≤ high) : roundedHalf low high ≤ high - low := by
  have nonneg := sub_nonneg.mpr ordered
  rcases exists_multiples_or_far representable representable' ordered with
    ⟨first, last, rfl, rfl, short⟩ | far
  · have kept := representable_mul_lastPlace short
    rw [Int.cast_sub, sub_mul] at kept
    rw [roundedHalf, nearest_of_representable kept]
    exact nearest_le_of_le kept (half_le_self nonneg)
  · have exactly := two_mul_roundedHalf_of_far far
    have near := (abs_le.mp (abs_nearest_sub_sub_le far)).2
    have part : (2 : ℝ) ^ (-53 : ℤ) ≤ 1 := by norm_num
    nlinarith

/-- The middle is no further than the ends. -/
theorem roundedMiddle_mem (ordered : low ≤ high) :
    low ≤ roundedMiddle low high ∧ roundedMiddle low high ≤ high := by
  have nonneg := roundedHalf_nonneg ordered
  have short := roundedHalf_le representable representable' ordered
  exact ⟨le_nearest_of_le representable (by linarith),
    nearest_le_of_le representable' (by linarith)⟩

theorem roundedMiddle_of_not_hasRoom (ordered : low < high) (full : ¬HasRoom low high) :
    roundedMiddle low high = low ∨ roundedMiddle low high = high := by
  obtain ⟨above, below⟩ := roundedMiddle_mem representable representable' ordered.le
  by_contra neither
  rw [not_or] at neither
  exact full ⟨_, representable_nearest _, lt_of_le_of_ne above (Ne.symm neither.1),
    lt_of_le_of_ne below neither.2⟩

end Ends

/-! ## Ends with few last places between -/

section Multiples

variable {first last : ℤ}

theorem two_mul_roundedHalf_le (short : |last - first| ≤ 2 ^ 53) :
    2 * roundedHalf (first * lastPlace) (last * lastPlace) ≤
      last * lastPlace - first * lastPlace + lastPlace := by
  have distance : last * lastPlace - first * lastPlace = ((last - first : ℤ) : ℝ) * lastPlace := by
    rw [Int.cast_sub, sub_mul]
  have half := roundedHalf_le_of_multiple short distance
  have rounded : 2 * ((last - first + 1) / 2) ≤ last - first + 1 := by omega
  have cast : 2 * (((last - first + 1) / 2 : ℤ) : ℝ) ≤ (last - first : ℤ) + 1 := by
    exact_mod_cast rounded
  have place := lastPlace_pos
  rw [distance]
  nlinarith

/-- Were the middle the upper end, no number would lie between that is not next to the lower one. -/
theorem le_succ_of_reached (short : |last - first| ≤ 2 ^ 53)
    (reached : last * lastPlace ≤ roundedMiddle (first * lastPlace) (last * lastPlace))
    {number : ℤ} (inside : Representable (number * lastPlace)) (below : number < last) :
    number ≤ first + 1 := by
  have place := lastPlace_pos
  have lower : number * lastPlace < last * lastPlace := by
    rw [mul_lt_mul_iff_left₀ place]
    exact Int.cast_lt.mpr below
  have near := le_add_of_high_le_roundedMiddle (two_mul_roundedHalf_le short) reached inside lower
  rw [← add_one_mul, mul_le_mul_iff_left₀ place] at near
  exact_mod_cast near

/-- Half of two last places is exact. -/
theorem roundedMiddle_of_two_apart (inside : Representable ((first + 1 : ℤ) * lastPlace)) :
    roundedMiddle (first * lastPlace) ((first + 2 : ℤ) * lastPlace) =
      (first + 1 : ℤ) * lastPlace := by
  have distance : (first + 2 : ℤ) * lastPlace - first * lastPlace = 2 * lastPlace := by
    push_cast
    ring
  have two : Representable (2 * lastPlace) := by
    exact_mod_cast representable_mul_lastPlace (n := 2) (by norm_num)
  have one : Representable lastPlace := representable_two_zpow le_rfl
  have middle : (first : ℝ) * lastPlace + lastPlace = (first + 1 : ℤ) * lastPlace := by
    push_cast
    ring
  rw [roundedMiddle, roundedHalf, distance, nearest_of_representable two,
    mul_div_cancel_left₀ _ two_ne_zero, nearest_of_representable one, middle,
    nearest_of_representable inside]

/-- Where the last place stops being a bit of the significand, a tie goes down. -/
theorem nearest_of_first_tie : nearest ((2 ^ 53 + 1) * lastPlace) = 2 ^ 53 * lastPlace := by
  have place := lastPlace_pos
  have small : lastPlace < 2 ^ (-1021 : ℤ) :=
    zpow_lt_zpow_right₀ one_lt_two (by norm_num)
  have larger : (2 : ℝ) ^ (-1021 + 1 : ℤ) = 2 * 2 ^ (-1021 : ℤ) := by
    rw [← zpow_one_add₀ two_ne_zero]
    norm_num
  have leading : (2 ^ 53 + 1) * lastPlace = 2 ^ (-1021 : ℤ) + lastPlace := by
    rw [add_mul, two_pow_mul_lastPlace, one_mul]
  have coarse : gridStep ((2 ^ 53 + 1) * lastPlace) = 2 ^ (-1021 - 52 : ℤ) := by
    rw [leading]
    exact gridStep_eq_of_mem (by norm_num) (by linarith) (by linarith)
  have doubled : (2 : ℝ) ^ (-1021 - 52 : ℤ) = 2 * lastPlace := by
    rw [two_mul_lastPlace]
    norm_num
  have tie : (2 ^ 53 + 1) * lastPlace / (2 * lastPlace) = ((2 ^ 52 : ℤ) : ℝ) + 1 / 2 := by
    rw [mul_div_mul_right _ _ place.ne']
    norm_num
  rw [nearest, coarse, doubled, tie, nearestEven_of_tie (by decide), ← mul_assoc]
  norm_num

/-- The only distance whose half is rounded up so that the sum is a tie. -/
theorem roundedMiddle_of_first_tie :
    roundedMiddle ((2 ^ 53 - 1 : ℤ) * lastPlace) ((2 ^ 53 + 2 : ℤ) * lastPlace) ≤
      2 ^ 53 * lastPlace := by
  have half : 2 * roundedHalf ((2 ^ 53 - 1 : ℤ) * lastPlace) ((2 ^ 53 + 2 : ℤ) * lastPlace) ≤ _ :=
    two_mul_roundedHalf_le (by norm_num)
  rw [← nearest_of_first_tie]
  apply nearest_mono
  push_cast at half ⊢
  linarith

/-- Few last places between leave the middle below the upper end, where there is room. -/
theorem roundedMiddle_lt_of_few (few : 0 < first ∧ first < 2 ^ 53)
    (short : |last - first| ≤ 2 ^ 53) (representable : Representable (last * lastPlace))
    (room : first + 1 < last) :
    roundedMiddle (first * lastPlace) (last * lastPlace) < last * lastPlace := by
  by_contra reached
  rw [not_lt] at reached
  have place := lastPlace_pos
  rcases le_or_gt last (2 ^ 53 + 1) with fine | coarse
  · -- The number before the upper end is next to the lower one.
    have inside := representable_mul_lastPlace (n := last - 1) (by rw [abs_le]; omega)
    have next := le_succ_of_reached short reached inside (sub_one_lt last)
    obtain rfl : last = first + 2 := by omega
    rw [add_sub_assoc] at inside
    rw [roundedMiddle_of_two_apart inside, mul_le_mul_iff_left₀ place] at reached
    have := Int.cast_le.mp reached
    omega
  · have leading := le_succ_of_reached short reached
      (representable_mul_lastPlace (n := 2 ^ 53) (by norm_num)) (by omega)
    have even : Representable (((2 ^ 53 + 2 : ℤ) : ℝ) * lastPlace) := by
      refine ⟨2 ^ 52 + 1, -1073, by norm_num, by norm_num, ?_⟩
      rw [← two_mul_lastPlace, ← mul_assoc]
      norm_num
    have none : ¬2 ^ 53 + 2 < last := by
      intro more
      have := le_succ_of_reached short reached even more
      omega
    obtain rfl : first = 2 ^ 53 - 1 := by omega
    obtain rfl : last = 2 ^ 53 + 2 := by omega
    have down := reached.trans roundedMiddle_of_first_tie
    rw [mul_le_mul_iff_left₀ place] at down
    norm_num at down

end Multiples

/-! ## Room between the ends -/

section Ends

variable (representable : Representable low) (representable' : Representable high)
  (positive : 0 < low)
include representable representable' positive

/-- Ends with no room between are a spacing apart. -/
theorem eq_add_gridStep_of_not_hasRoom (ordered : low < high) (full : ¬HasRoom low high) :
    high = low + gridStep low := by
  have next := add_gridStep_le representable representable' positive ordered
  refine (next.eq_or_lt.resolve_right fun below => full ?_).symm
  exact ⟨_, representable_add_gridStep representable positive,
    lt_add_of_pos_right _ (gridStep_pos low), below⟩

theorem low_lt_roundedMiddle (room : HasRoom low high) : low < roundedMiddle low high := by
  obtain ⟨middle, inside, above, below⟩ := room
  have step := gridStep_pos low
  -- A spacing of the lower end fits twice into the distance, and so once into its half.
  have first := add_gridStep_le representable inside positive above
  have second := add_gridStep_le inside representable' (positive.trans above) below
  have coarser := gridStep_mono positive above.le
  have place := lastPlace_le_gridStep low
  have once : Representable (gridStep low) := representable_two_zpow (le_max_right _ _)
  have twice : Representable (2 * gridStep low) := by
    exact_mod_cast representable_mul_gridStep (n := 2) (by norm_num) low
  have apart : 2 * gridStep low ≤ nearest (high - low) := le_nearest_of_le twice (by linarith)
  have half : gridStep low ≤ roundedHalf low high := le_nearest_of_le once (by linarith)
  calc
    low < low + gridStep low := lt_add_of_pos_right _ step
    _ ≤ roundedMiddle low high :=
      le_nearest_of_le (representable_add_gridStep representable positive) (by linarith)

/-- Only of ends of different sizes the distance is not kept. -/
theorem low_lt_sub_of_not_representable (ordered : low < high)
    (lost : ¬Representable (high - low)) : low < high - low := by
  have size : |low| ≤ |high| := by
    rw [abs_of_pos positive, abs_of_pos (positive.trans ordered)]
    exact ordered.le
  obtain ⟨n, multiple⟩ := exists_mul_gridStep_of_le representable positive.ne' le_rfl
  obtain ⟨n', multiple'⟩ := exists_mul_gridStep_of_le representable' positive.ne' size
  have distance : high - low = ((n' - n : ℤ) : ℝ) * gridStep low := by
    rw [multiple', Int.cast_sub, sub_mul, ← multiple]
  have step := gridStep_pos low
  have fewer : (0 : ℝ) < ((n' - n : ℤ) : ℝ) := by
    rw [← mul_pos_iff_of_pos_right step, ← distance]
    exact sub_pos.mpr ordered
  have long : 2 ^ 53 < n' - n := by
    by_contra short
    rw [not_lt] at short
    apply lost
    rw [distance]
    apply representable_mul_gridStep
    rwa [abs_of_pos (Int.cast_pos.mp fewer)]
  have cast : (2 : ℝ) ^ 53 < ((n' - n : ℤ) : ℝ) := by exact_mod_cast long
  calc
    low = |low| := (abs_of_pos positive).symm
    _ < 2 ^ 53 * gridStep low := abs_lt_gridStep low
    _ < ((n' - n : ℤ) : ℝ) * gridStep low := mul_lt_mul_of_pos_right cast step
    _ = high - low := distance.symm

/-- Between ends of different sizes the middle is well below the upper one. -/
theorem roundedMiddle_lt_of_not_representable (ordered : low < high)
    (far : 2 ^ (-1021 : ℤ) ≤ high - low) (lost : ¬Representable (high - low)) :
    roundedMiddle low high < high := by
  have twice := low_lt_sub_of_not_representable representable representable' positive ordered lost
  have halved := two_mul_roundedHalf_of_far far
  have near := (abs_le.mp (abs_nearest_sub_sub_le far)).2
  have full := le_nearest_of_le (representable_two_zpow (by norm_num)) far
  have double : (2 : ℝ) ^ (-1021 : ℤ) = 2 * 2 ^ (-1022 : ℤ) := by
    rw [← zpow_one_add₀ two_ne_zero]
    norm_num
  have nonneg : 0 ≤ low + roundedHalf low high :=
    add_nonneg positive.le (roundedHalf_nonneg ordered.le)
  have normal : (2 : ℝ) ^ (-1022 : ℤ) ≤ |low + roundedHalf low high| := by
    rw [abs_of_nonneg nonneg]
    linarith
  have error := (abs_le.mp (abs_nearest_sub_le_of_normal normal)).2
  rw [abs_of_nonneg nonneg] at error
  rw [roundedMiddle]
  norm_num at near error
  linarith

theorem roundedMiddle_lt_of_multiples {first last : ℤ} (lowEq : low = first * lastPlace)
    (highEq : high = last * lastPlace) (short : |last - first| ≤ 2 ^ 53)
    (room : HasRoom low high) : roundedMiddle low high < high := by
  by_contra reached
  rw [not_lt] at reached
  have place := lastPlace_pos
  obtain ⟨middle, inside, above, below⟩ := room
  -- The number between is the next one after the lower end, and the last place counts there.
  have half := two_mul_roundedHalf_le short
  rw [← lowEq, ← highEq] at half
  have near := le_add_of_high_le_roundedMiddle half reached inside below
  have next := add_gridStep_le representable inside positive above
  have fine : gridStep low ≤ lastPlace := by linarith
  have size := abs_lt_gridStep low
  rw [abs_of_pos positive] at size
  have small : (first : ℝ) < 2 ^ 53 := by
    rw [← mul_lt_mul_iff_left₀ place, ← lowEq]
    exact size.trans_le (mul_le_mul_of_nonneg_left fine (by positivity))
  have some : (0 : ℝ) < first := by
    rwa [← mul_pos_iff_of_pos_right place, ← lowEq]
  have wide : (first : ℝ) + 1 < last := by
    rw [← mul_lt_mul_iff_left₀ place, add_one_mul, ← lowEq, ← highEq]
    have := lastPlace_le_gridStep low
    linarith
  have few : 0 < first ∧ first < 2 ^ 53 := ⟨by exact_mod_cast some, by exact_mod_cast small⟩
  have room : first + 1 < last := by exact_mod_cast wide
  rw [lowEq, highEq] at reached
  rw [highEq] at representable'
  exact absurd (roundedMiddle_lt_of_few few short representable' room) (not_lt.mpr reached)

theorem roundedMiddle_lt_high (room : HasRoom low high) : roundedMiddle low high < high := by
  obtain ⟨_, _, above, below⟩ := id room
  have ordered := above.trans below
  rcases exists_multiples_or_far representable representable' ordered.le with
    ⟨first, last, lowEq, highEq, short⟩ | far
  · exact roundedMiddle_lt_of_multiples representable representable' positive lowEq highEq short
      room
  · by_cases kept : Representable (high - low)
    · apply roundedMiddle_lt_of_exact room
      rw [two_mul_roundedHalf_of_far far, nearest_of_representable kept]
    · exact roundedMiddle_lt_of_not_representable representable representable' positive ordered far
        kept

/-- The middle is strictly between the ends just where some number is. -/
theorem roundedMiddle_strict_iff :
    low < roundedMiddle low high ∧ roundedMiddle low high < high ↔ HasRoom low high := by
  constructor
  · rintro ⟨above, below⟩
    exact ⟨_, representable_nearest _, above, below⟩
  · intro room
    exact ⟨low_lt_roundedMiddle representable representable' positive room,
      roundedMiddle_lt_high representable representable' positive room⟩

end Ends

end WifiLink
