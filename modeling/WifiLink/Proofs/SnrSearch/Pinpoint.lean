import WifiLink.Proofs.SnrSearch.Bracket

/-!
# What the search pins down

A falling curve of failures is searched between two real ends. The ends that were moved lie on
their sides of the target; the ends of the range itself are never looked at, and so it is they
that decide what the answer is worth.
-/

namespace WifiLink

open Exact

variable {tail : ErrorTail}

/-! ## Curves -/

section Curves

variable (failure : Exact tail → Except (Fault (Exact tail)) (Exact tail)) (target : Exact tail)

/-- The failure probability at a ratio is known to be above the target. -/
def FailsTooOften (snr : Exact tail) : Prop :=
  ∃ rate, failure snr = .ok rate ∧ target < rate

/-- The failure probability at a ratio is known not to be above the target. -/
def FailsSeldom (snr : Exact tail) : Prop :=
  ∃ rate, failure snr = .ok rate ∧ rate ≤ target

/-- The curve of failures crosses the target within a precision above the ratio. -/
def Pinpoints (precision snr : Exact tail) : Prop :=
  FailsTooOften failure target snr ∧ FailsSeldom failure target (snr + precision)

/-- A louder signal fails less often. -/
structure Falling : Prop where
  often_of_le : ∀ {snr louder : Exact tail}, finite 0 < snr → snr ≤ louder →
    FailsTooOften failure target louder → FailsTooOften failure target snr
  seldom_of_le : ∀ {snr louder : Exact tail}, finite 0 < snr → snr ≤ louder →
    FailsSeldom failure target snr → FailsSeldom failure target louder
  compares : ∀ {snr rate : Exact tail}, failure snr = .ok rate → target < rate ∨ rate ≤ target

end Curves

variable {failure : Exact tail → Except (Fault (Exact tail)) (Exact tail)}
  {target precision : Exact tail}

theorem not_failsTooOften_of_failsSeldom {snr : Exact tail}
    (seldom : FailsSeldom failure target snr) :
    ¬FailsTooOften failure target snr := by
  rintro ⟨rate, failed, above⟩
  obtain ⟨rate', failed', below⟩ := seldom
  obtain rfl : rate = rate' := Except.ok.inj (failed.symm.trans failed')
  exact not_below_of_atMost below above

/-! ## Searched brackets -/

/-- Where some halvings of a range of real ratios lead. -/
structure Searched
    (failure : Exact tail → Except (Fault (Exact tail)) (Exact tail))
    (target precision : Exact tail) (bottom top : ℝ) (halvings : ℕ) (low high : ℝ) : Prop where
  width : high - low = (top - bottom) / 2 ^ halvings
  bottom_le : bottom ≤ low
  le_top : high ≤ top
  lowEnd : low = bottom ∨ FailsTooOften failure target (finite low)
  highEnd : high = top ∨ FailsSeldom failure target (finite high)
  wide : ∀ earlier < halvings,
    ¬((Bracket.between bottom top).climbed earlier).gap ≤ precision

/-- A bracket that some halvings of a range lead to. -/
def SearchedTo
    (failure : Exact tail → Except (Fault (Exact tail)) (Exact tail))
    (target precision : Exact tail) (bottom top : ℝ) (halvings : ℕ)
    (bracket : Bracket (Exact tail)) : Prop :=
  ∃ low high, bracket = .between low high ∧
    Searched failure target precision bottom top halvings low high

theorem gap_climbed_between (bottom top : ℝ) (halvings : ℕ) :
    ((Bracket.between bottom top : Bracket (Exact tail)).climbed halvings).gap =
      finite ((top - bottom) / 2 ^ halvings) := by
  rw [Bracket.climbed_between, Bracket.gap_between, sub_sub_cancel]

theorem low_climbed_between (bottom top : ℝ) (halvings : ℕ) :
    ((Bracket.between bottom top : Bracket (Exact tail)).climbed halvings).low =
      finite (top - (top - bottom) / 2 ^ halvings) := by
  rw [Bracket.climbed_between]
  rfl

namespace Searched

variable {bottom top low high : ℝ} {halvings : ℕ}

theorem start (bottom top : ℝ) : Searched failure target precision bottom top 0 bottom top where
  width := by rw [pow_zero, div_one]
  bottom_le := le_rfl
  le_top := le_rfl
  lowEnd := Or.inl rfl
  highEnd := Or.inl rfl
  wide := fun earlier fewer => absurd fewer (Nat.not_lt_zero earlier)

section Step

variable (searched : Searched failure target precision bottom top halvings low high)
include searched

theorem wide_succ (wide : ¬(finite (high - low) : Exact tail) ≤ precision) :
    ∀ earlier < halvings + 1,
      ¬((Bracket.between bottom top).climbed earlier).gap ≤ precision := by
  intro earlier fewer
  rcases Nat.lt_succ_iff_lt_or_eq.mp fewer with before | rfl
  · exact searched.wide earlier before
  · rw [gap_climbed_between, ← searched.width]
    exact wide

variable (ordered : bottom < top)
include ordered

theorem low_lt_high : low < high := by
  have width := searched.width
  have positive : 0 < (top - bottom) / 2 ^ halvings :=
    div_pos (sub_pos.mpr ordered) (by positivity)
  linarith

theorem raiseLow
    (wide : ¬(finite (high - low) : Exact tail) ≤ precision)
    (often : FailsTooOften failure target (finite (low + (high - low) / 2))) :
    Searched failure target precision bottom top (halvings + 1)
      (low + (high - low) / 2) high where
  width := by
    have width := searched.width
    rw [pow_succ, ← div_div, ← width]
    ring
  bottom_le := by
    have above := searched.bottom_le
    have proper := searched.low_lt_high ordered
    linarith
  le_top := searched.le_top
  lowEnd := Or.inr often
  highEnd := searched.highEnd
  wide := searched.wide_succ wide

theorem lowerHigh
    (wide : ¬(finite (high - low) : Exact tail) ≤ precision)
    (seldom : FailsSeldom failure target (finite (low + (high - low) / 2))) :
    Searched failure target precision bottom top (halvings + 1)
      low (low + (high - low) / 2) where
  width := by
    have width := searched.width
    rw [pow_succ, ← div_div, ← width]
    ring
  bottom_le := searched.bottom_le
  le_top := by
    have below := searched.le_top
    have proper := searched.low_lt_high ordered
    linarith
  lowEnd := searched.lowEnd
  highEnd := Or.inr seldom
  wide := searched.wide_succ wide

end Step

/-- One step of the search. -/
theorem exists_of_halve
    (compares : ∀ {snr rate : Exact tail}, failure snr = .ok rate → target < rate ∨ rate ≤ target)
    (ordered : bottom < top) {bracket : Bracket (Exact tail)} {rate : Exact tail}
    (searched : SearchedTo failure target precision bottom top halvings bracket)
    (wide : ¬bracket.gap ≤ precision) (failed : failure bracket.middle = .ok rate) :
    SearchedTo failure target precision bottom top (halvings + 1)
      (bracket.halve (target < rate)) := by
  obtain ⟨low, high, rfl, searched⟩ := searched
  rw [Bracket.gap_between] at wide
  rw [Bracket.middle_between] at failed
  rcases compares failed with above | below
  · rw [decide_eq_true above, Bracket.halve_between_true]
    exact ⟨_, _, rfl, searched.raiseLow ordered wide ⟨rate, failed, above⟩⟩
  · rw [decide_eq_false (not_below_of_atMost below), Bracket.halve_between_false]
    exact ⟨_, _, rfl, searched.lowerHigh ordered wide ⟨rate, failed, below⟩⟩

/-- The search ends with a searched bracket. -/
theorem exists_of_bisect
    (compares : ∀ {snr rate : Exact tail}, failure snr = .ok rate → target < rate ∨ rate ≤ target)
    (ordered : bottom < top) {steps : ℕ} {final : Bracket (Exact tail)}
    (ended : bisect failure target precision steps (.between bottom top) = .ok final) :
    ∃ halvings ≤ steps, SearchedTo failure target precision bottom top halvings final ∧
      (halvings = steps ∨ final.gap ≤ precision) := by
  have atStart : SearchedTo failure target precision bottom top 0 (.between bottom top) :=
    ⟨bottom, top, rfl, start bottom top⟩
  obtain ⟨halvings, few, searched, last⟩ :=
    bisect_induction (fun _ _ _ => exists_of_halve compares ordered) atStart ended
  rw [Nat.zero_add] at searched
  exact ⟨halvings, few, searched, last⟩

section Answer

variable (falling : Falling failure target) (positive : 0 < bottom)
  (searched : Searched failure target precision bottom top halvings low high)
include falling positive searched

theorem low_eq_bottom (seldom : FailsSeldom failure target (finite bottom)) : low = bottom := by
  refine searched.lowEnd.resolve_right fun often => ?_
  exact not_failsTooOften_of_failsSeldom seldom
    (falling.often_of_le positive searched.bottom_le often)

variable (ordered : bottom < top)
include ordered

theorem high_eq_top (often : FailsTooOften failure target (finite top)) : high = top := by
  have proper := searched.low_lt_high ordered
  have above : (0 : ℝ) < high := positive.trans_le (searched.bottom_le.trans proper.le)
  refine searched.highEnd.resolve_right fun seldom => ?_
  exact not_failsTooOften_of_failsSeldom
    (falling.seldom_of_le above searched.le_top seldom) often

/-- Both ends of the range are what the answer rests on. -/
theorem pinpoints_iff (narrow : (finite (high - low) : Exact tail) ≤ precision) :
    Pinpoints failure target precision (finite low) ↔
      FailsTooOften failure target (finite bottom) ∧
        FailsSeldom failure target
          (finite (top - (top - bottom) / 2 ^ halvings) + precision) := by
  have proper := searched.low_lt_high ordered
  have above : (0 : ℝ) < high := positive.trans_le (searched.bottom_le.trans proper.le)
  have reached : (finite high : Exact tail) ≤ finite low + precision := finite_le_add narrow
  constructor
  · rintro ⟨often, seldom⟩
    refine ⟨falling.often_of_le positive searched.bottom_le often, ?_⟩
    have audible : (finite 0 : Exact tail) < finite low + precision :=
      below_of_below_of_atMost above reached
    refine falling.seldom_of_le audible ?_ seldom
    apply finite_add_mono
    · rintro rfl
      exact not_le_notANumber _ narrow
    · have width := searched.width
      have below := searched.le_top
      linarith
  · rintro ⟨often, seldom⟩
    constructor
    · rcases searched.lowEnd with equality | moved
      · rw [equality]
        exact often
      · exact moved
    · rcases searched.highEnd with equality | moved
      · have climbed : top - (top - bottom) / 2 ^ halvings = low := by
          rw [← searched.width, equality, sub_sub_cancel]
        rw [climbed] at seldom
        exact seldom
      · exact falling.seldom_of_le above reached moved

end Answer

end Searched

/-! ## Whether there is an answer -/

section Ends

variable {bottom top : ℝ} {steps : ℕ}

/-- A curve that is known on the positive reals lets every search come to its end. -/
theorem exists_bisect_between
    (known : ∀ snr : ℝ, 0 < snr → ∃ rate, failure (finite snr) = .ok rate)
    (positive : 0 < bottom) (ordered : bottom < top) :
    ∃ final, bisect failure target precision steps (.between bottom top) = .ok final := by
  induction steps generalizing bottom top with
  | zero => exact ⟨_, rfl⟩
  | succ steps inductionHypothesis =>
      by_cases narrow : (Bracket.between bottom top).gap ≤ precision
      · exact ⟨_, if_pos narrow⟩
      · have middle : 0 < bottom + (top - bottom) / 2 := by linarith
        obtain ⟨rate, failed⟩ := known _ middle
        rw [bisect, if_neg narrow, Bracket.middle_between, failed, ok_bind]
        by_cases above : target < rate
        · rw [decide_eq_true above, Bracket.halve_between_true]
          exact inductionHypothesis middle (by linarith)
        · rw [decide_eq_false above, Bracket.halve_between_false]
          exact inductionHypothesis positive (by linarith)

/-- The search narrows the range enough when so many halvings do, whatever they find. -/
theorem narrows_iff
    (falling : Falling failure target)
    (known : ∀ snr : ℝ, 0 < snr → ∃ rate, failure (finite snr) = .ok rate)
    (positive : 0 < bottom) (ordered : bottom < top) :
    (∃ final, bisect failure target precision steps (.between bottom top) = .ok final ∧
        final.gap ≤ precision) ↔
      ∃ halvings ≤ steps, ((Bracket.between bottom top).climbed halvings).gap ≤ precision := by
  constructor
  · rintro ⟨final, ended, narrow⟩
    obtain ⟨halvings, few, ⟨low, high, rfl, searched⟩, _⟩ :=
      Searched.exists_of_bisect falling.compares ordered ended
    refine ⟨halvings, few, ?_⟩
    rw [gap_climbed_between, ← searched.width, ← Bracket.gap_between]
    exact narrow
  · rintro ⟨halvings, few, narrow⟩
    obtain ⟨final, ended⟩ := exists_bisect_between known positive ordered
    refine ⟨final, ended, ?_⟩
    obtain ⟨taken, _, ⟨low, high, rfl, searched⟩, last⟩ :=
      Searched.exists_of_bisect falling.compares ordered ended
    refine last.elim (fun all => ?_) id
    -- All steps were taken, so that the gap is no wider than it was after fewer.
    rw [gap_climbed_between] at narrow
    rw [Bracket.gap_between, searched.width, all]
    refine atMost_trans ?_ narrow
    have difference : 0 ≤ top - bottom := by linarith
    rw [finite_le_finite]
    gcongr
    exact one_le_two

/-- Without an upper end no ratio is found. -/
theorem refused_of_unbounded
    {bracket : Bracket (Exact tail)} (unbounded : bracket.Unbounded)
    (loudest : ∃ rate, failure (infinite false) = .ok rate)
    (missing : Refused (failure notANumber)) :
    Refused (bisect failure target precision steps bracket) ∨
      ∃ final, bisect failure target precision steps bracket = .ok final ∧ final.Unbounded := by
  induction steps generalizing bracket with
  | zero => exact Or.inr ⟨bracket, rfl, unbounded⟩
  | succ steps inductionHypothesis =>
      by_cases narrow : bracket.gap ≤ precision
      · exact Or.inr ⟨bracket, if_pos narrow, unbounded⟩
      · rw [bisect, if_neg narrow]
        have middle : bracket.middle = infinite false ∨ bracket.middle = notANumber := by
          rcases unbounded with ⟨low, rfl⟩ | noGap
          · exact Or.inl (Bracket.middle_of_infinite low)
          · exact Or.inr (Bracket.middle_of_missing_gap noGap)
        rcases middle with middle | middle
        · obtain ⟨rate, failed⟩ := loudest
          rw [middle, failed, ok_bind]
          exact inductionHypothesis (Bracket.unbounded_halve unbounded _)
        · rw [middle]
          exact Or.inl (missing.bind _)

end Ends

end WifiLink
