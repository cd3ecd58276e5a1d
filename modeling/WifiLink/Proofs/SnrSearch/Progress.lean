import WifiLink.Proofs.Rounded.Basic
import WifiLink.Proofs.Rounded.Middle
import WifiLink.Proofs.SnrSearch.Outcome

/-!
# Progress of the search among doubles

A halving makes the bracket smaller as long as some double lies strictly between its ends. Between
neighbours it does not: the search stands still where they are further apart than the precision,
however many steps it may take.
-/

namespace WifiLink

open Exact Rounded

/-! ## Rest -/

section Rest

variable {α : Type} [Scalar α] {failure : α → Except (Fault α) α} {target precision : α}

/-- Some number lies strictly between the ends. -/
def Bracket.Divisible (bracket : Bracket α) : Prop :=
  ∃ inside, bracket.low < inside ∧ inside < bracket.high

/-- Where a search ends that is not short of steps: with a bracket that is narrow enough, with one
that cannot be divided, or with a failure at a middle. -/
inductive Rests (failure : α → Except (Fault α) α) (precision : α) :
    Except (Fault α) (Bracket α) → Prop
  | narrow {bracket : Bracket α} (narrow : bracket.gap ≤ precision) :
      Rests failure precision (.ok bracket)
  | stalled {bracket : Bracket α} (wide : ¬bracket.gap ≤ precision)
      (full : ¬bracket.Divisible) : Rests failure precision (.ok bracket)
  | failed {bracket : Bracket α} {fault : Fault α}
      (failed : failure bracket.middle = .error fault) : Rests failure precision (.error fault)

/-- After enough steps the number of steps makes no difference. -/
def ComesToRest (failure : α → Except (Fault α) α) (target precision : α) (bracket : Bracket α) :
    Prop :=
  ∃ enough outcome, Rests failure precision outcome ∧
    ∀ steps ≥ enough, bisect failure target precision steps bracket = outcome

private theorem comesToRest_of_narrow {bracket : Bracket α} (narrow : bracket.gap ≤ precision) :
    ComesToRest failure target precision bracket :=
  ⟨0, _, .narrow narrow, fun steps _ => bisect_of_narrow narrow steps⟩

private theorem comesToRest_of_failed {bracket : Bracket α} {fault : Fault α}
    (wide : ¬bracket.gap ≤ precision) (failed : failure bracket.middle = .error fault) :
    ComesToRest failure target precision bracket := by
  refine ⟨1, _, .failed failed, fun steps enough => ?_⟩
  obtain ⟨more, rfl⟩ := Nat.exists_eq_add_of_le' enough
  rw [bisect, if_neg wide, failed, error_bind]

private theorem bisect_succ_of_ok {bracket : Bracket α} {rate : α} (wide : ¬bracket.gap ≤ precision)
    (evaluated : failure bracket.middle = .ok rate) (steps : ℕ) :
    bisect failure target precision (steps + 1) bracket =
      bisect failure target precision steps (bracket.halve (target < rate)) := by
  rw [bisect, if_neg wide, evaluated, ok_bind]

private theorem comesToRest_of_halve {bracket : Bracket α} {rate : α}
    (wide : ¬bracket.gap ≤ precision) (evaluated : failure bracket.middle = .ok rate)
    (rests : ComesToRest failure target precision (bracket.halve (target < rate))) :
    ComesToRest failure target precision bracket := by
  obtain ⟨enough, outcome, rests, reached⟩ := rests
  refine ⟨enough + 1, outcome, rests, fun steps many => ?_⟩
  obtain ⟨more, rfl⟩ := Nat.exists_eq_add_of_le' ((Nat.le_add_left 1 enough).trans many)
  rw [bisect_succ_of_ok wide evaluated]
  exact reached more (Nat.le_of_succ_le_succ many)

/-- A bracket that its halving leaves as it is stays so. -/
theorem bisect_of_halve_eq {bracket : Bracket α} {rate : α} (wide : ¬bracket.gap ≤ precision)
    (evaluated : failure bracket.middle = .ok rate)
    (kept : bracket.halve (target < rate) = bracket) (steps : ℕ) :
    bisect failure target precision steps bracket = .ok bracket := by
  induction steps with
  | zero => rfl
  | succ steps inductionHypothesis =>
      rw [bisect_succ_of_ok wide evaluated, kept]
      exact inductionHypothesis

end Rest

variable {tail : ErrorTail} {bracket : Bracket (Rounded tail)} {low high : ℝ}

namespace Bracket

/-! ## Brackets of doubles -/

/-- The ends are real numbers above zero and in order. -/
structure Spans (bracket : Bracket (Rounded tail)) (low high : ℝ) : Prop where
  low_eq : bracket.low.exact = finite low
  high_eq : bracket.high.exact = finite high
  positive : 0 < low
  ordered : low ≤ high

namespace Spans

variable (spans : bracket.Spans low high)
include spans

private theorem isDouble_low : IsDouble low :=
  isDouble_of_exact_eq spans.low_eq

private theorem isDouble_high : IsDouble high :=
  isDouble_of_exact_eq spans.high_eq

private theorem representable_low : Representable low :=
  spans.isDouble_low.1

private theorem representable_high : Representable high :=
  spans.isDouble_high.1

/-- What is no further than the upper end is no overflow. -/
theorem nearest_lt_of_mem {x : ℝ} (nonneg : 0 ≤ x) (below : x ≤ high) :
    |nearest x| < 2 ^ 1024 := by
  rw [abs_of_nonneg (nearest_nonneg nonneg)]
  calc
    nearest x ≤ high := nearest_le_of_le spans.representable_high below
    _ ≤ |high| := le_abs_self high
    _ < 2 ^ 1024 := spans.isDouble_high.2

private theorem exact_gap : bracket.gap.exact = finite (nearest (high - low)) := by
  have nonneg := sub_nonneg.mpr spans.ordered
  have below : high - low ≤ high := sub_le_self high spans.positive.le
  exact exact_sub spans.high_eq spans.low_eq (spans.nearest_lt_of_mem nonneg below)

private theorem exact_middle : bracket.middle.exact = finite (roundedMiddle low high) := by
  have positive := spans.positive
  have nonneg := nearest_nonneg (sub_nonneg.mpr spans.ordered)
  have short : nearest (high - low) ≤ high :=
    nearest_le_of_le spans.representable_high (sub_le_self high positive.le)
  have half : (bracket.gap / 2.0).exact = finite (roundedHalf low high) := by
    apply exact_div spans.exact_gap exact_two two_ne_zero
    apply spans.nearest_lt_of_mem
    · exact div_nonneg nonneg two_pos.le
    · exact (half_le_self nonneg).trans short
  have further := roundedHalf_nonneg spans.ordered
  have within := roundedHalf_le spans.representable_low spans.representable_high spans.ordered
  exact exact_add spans.low_eq half
    (spans.nearest_lt_of_mem (add_nonneg positive.le further) (by linarith))

private theorem gap_le_iff {precision : Rounded tail} {step : ℝ}
    (precision_eq : precision.exact = finite step) :
    bracket.gap ≤ precision ↔ nearest (high - low) ≤ step :=
  le_iff spans.exact_gap precision_eq

private theorem low_lt_high_of_wide {precision : Rounded tail} {step : ℝ} (nonneg : 0 ≤ step)
    (precision_eq : precision.exact = finite step) (wide : ¬bracket.gap ≤ precision) :
    low < high := by
  refine spans.ordered.lt_of_ne fun same => wide ?_
  rw [spans.gap_le_iff precision_eq, same, sub_self, nearest_zero]
  exact nonneg

private theorem divisible_iff : bracket.Divisible ↔ HasRoom low high := by
  have below (x : Rounded tail) : bracket.low < x ↔ finite low < x.exact := by
    rw [← spans.low_eq]
    rfl
  have above (x : Rounded tail) : x < bracket.high ↔ x.exact < finite high := by
    rw [← spans.high_eq]
    rfl
  constructor
  · rintro ⟨inside, lower, upper⟩
    rw [below] at lower
    rw [above] at upper
    cases real : inside.exact with
    | finite middle =>
        rw [real] at lower upper
        exact ⟨middle, (isDouble_of_exact_eq real).1, lower, upper⟩
    | infinite negative =>
        rw [real] at lower upper
        exact absurd (Eq.trans (Eq.symm upper) lower) Bool.true_eq_false.mp
    | notANumber =>
        rw [real] at lower
        exact lower.elim
  · rintro ⟨middle, representable, lower, upper⟩
    have small : |middle| < 2 ^ 1024 := by
      rw [abs_of_pos (spans.positive.trans lower)]
      exact upper.trans ((le_abs_self high).trans_lt spans.isDouble_high.2)
    refine ⟨⟨finite middle, representable, small⟩, (below _).mpr lower, (above _).mpr upper⟩

private theorem halve_true : (bracket.halve true).Spans (roundedMiddle low high) high := by
  have mem := roundedMiddle_mem spans.representable_low spans.representable_high spans.ordered
  rw [halve, if_pos rfl]
  exact ⟨spans.exact_middle, spans.high_eq, spans.positive.trans_le mem.1, mem.2⟩

private theorem halve_false : (bracket.halve false).Spans low (roundedMiddle low high) := by
  have mem := roundedMiddle_mem spans.representable_low spans.representable_high spans.ordered
  rw [halve, if_neg Bool.false_ne_true]
  exact ⟨spans.low_eq, spans.exact_middle, spans.positive, mem.1⟩

private theorem middle_strict_iff :
    bracket.low < bracket.middle ∧ bracket.middle < bracket.high ↔ bracket.Divisible := by
  rw [spans.divisible_iff, lt_iff spans.low_eq spans.exact_middle,
    lt_iff spans.exact_middle spans.high_eq]
  exact roundedMiddle_strict_iff spans.representable_low spans.representable_high spans.positive

section Full

variable (apart : low < high) (full : ¬bracket.Divisible)
include apart full

private theorem middle_of_not_divisible :
    bracket.middle = bracket.low ∨ bracket.middle = bracket.high := by
  rw [spans.divisible_iff] at full
  rw [Rounded.ext_iff, Rounded.ext_iff, spans.exact_middle, spans.low_eq, spans.high_eq]
  exact (roundedMiddle_of_not_hasRoom spans.representable_low spans.representable_high apart
    full).imp (congrArg finite) (congrArg finite)

/-- Between neighbours a halving changes nothing, or it leaves one number. -/
theorem halve_of_not_divisible (failsTooOften : Bool) :
    bracket.halve failsTooOften = bracket ∨
      ∃ point, (bracket.halve failsTooOften).Spans point point := by
  have middle := spans.middle_of_not_divisible apart full
  cases failsTooOften with
  | true =>
      rw [halve, if_pos rfl]
      rcases middle with lower | upper
      · left
        rw [lower]
      · right
        rw [upper]
        exact ⟨high, spans.high_eq, spans.high_eq, spans.positive.trans apart, le_rfl⟩
  | false =>
      rw [halve, if_neg Bool.false_ne_true]
      rcases middle with lower | upper
      · right
        rw [lower]
        exact ⟨low, spans.low_eq, spans.low_eq, spans.positive, le_rfl⟩
      · left
        rw [upper]

/-- Neighbours further apart than a precision have no room for it in their significands. -/
theorem precision_lt_low_of_not_divisible {precision : Rounded tail} {step : ℝ}
    (precision_eq : precision.exact = finite step) (positive : 0 < step)
    (wide : ¬bracket.gap ≤ precision) : 2 ^ 52 * step < low := by
  rw [spans.divisible_iff] at full
  have next := eq_add_gridStep_of_not_hasRoom spans.representable_low spans.representable_high
    spans.positive apart full
  have once : Representable (gridStep low) := representable_two_zpow (le_max_right _ _)
  rw [spans.gap_le_iff precision_eq, next, add_sub_cancel_left, nearest_of_representable once,
    not_le] at wide
  have place := (isDouble_of_exact_eq precision_eq).1.lastPlace_le positive
  have leading := (gridStep_le_abs_or_eq spans.positive.ne').resolve_right fun last =>
    absurd place (not_le.mpr (wide.trans_eq last))
  rw [abs_of_pos spans.positive] at leading
  linarith

end Full

/-- A divisible bracket loses at least a last place. -/
theorem halve_of_divisible (divisible : bracket.Divisible) (failsTooOften : Bool) :
    ∃ low' high', (bracket.halve failsTooOften).Spans low' high' ∧ low ≤ low' ∧ high' ≤ high ∧
      high' - low' ≤ high - low - lastPlace := by
  rw [spans.divisible_iff] at divisible
  have above := low_lt_roundedMiddle spans.representable_low spans.representable_high
    spans.positive divisible
  have below := roundedMiddle_lt_high spans.representable_low spans.representable_high
    spans.positive divisible
  have middle : Representable (roundedMiddle low high) := representable_nearest _
  cases failsTooOften with
  | true =>
      have next := add_gridStep_le spans.representable_low middle spans.positive above
      have place := lastPlace_le_gridStep low
      exact ⟨_, _, spans.halve_true, above.le, le_rfl, by linarith⟩
  | false =>
      have next :=
        add_gridStep_le middle spans.representable_high (spans.positive.trans above) below
      have place := lastPlace_le_gridStep (roundedMiddle low high)
      exact ⟨_, _, spans.halve_false, le_rfl, below.le, by linarith⟩

end Spans

end Bracket

/-! ## The search comes to rest -/

section Search

variable {failure : Rounded tail → Except (Fault (Rounded tail)) (Rounded tail)}
  {target precision : Rounded tail}

private theorem comesToRest {step : ℝ} (nonneg : 0 ≤ step)
    (precision_eq : precision.exact = finite step) {count : ℕ} (spans : bracket.Spans low high)
    (size : high - low ≤ count * lastPlace) :
    ComesToRest failure target precision bracket := by
  -- The distance of the ends is a number of last places, of which every halving takes one.
  induction count generalizing bracket low high with
  | zero =>
      rw [Nat.cast_zero, zero_mul, sub_nonpos] at size
      apply comesToRest_of_narrow
      by_contra wide
      exact absurd (spans.low_lt_high_of_wide nonneg precision_eq wide) (not_lt.mpr size)
  | succ count inductionHypothesis =>
      by_cases narrow : bracket.gap ≤ precision
      · exact comesToRest_of_narrow narrow
      have apart := spans.low_lt_high_of_wide nonneg precision_eq narrow
      cases evaluated : failure bracket.middle with
      | error fault => exact comesToRest_of_failed narrow evaluated
      | ok rate =>
          by_cases divisible : bracket.Divisible
          · obtain ⟨low', high', spans', _, _, shorter⟩ :=
              spans.halve_of_divisible divisible (target < rate)
            apply comesToRest_of_halve narrow evaluated
            apply inductionHypothesis spans'
            push_cast at size
            linarith
          · rcases spans.halve_of_not_divisible apart divisible (target < rate) with kept | point
            · exact ⟨0, _, .stalled narrow divisible,
                fun steps _ => bisect_of_halve_eq narrow evaluated kept steps⟩
            · obtain ⟨number, spans'⟩ := point
              apply comesToRest_of_halve narrow evaluated
              apply comesToRest_of_narrow
              rw [spans'.gap_le_iff precision_eq, sub_self, nearest_zero]
              exact nonneg

/-- The brackets of a search are within its range. -/
theorem exists_spans_of_bisect {bottom top : ℝ} {steps : ℕ} {range : Bracket (Rounded tail)}
    (spans : range.Spans bottom top)
    (reached : bisect failure target precision steps range = .ok bracket) :
    ∃ low high, bracket.Spans low high ∧ bottom ≤ low ∧ high ≤ top := by
  obtain ⟨_, _, within, _⟩ := @bisect_induction _ _ failure target precision
    (fun _ bracket => ∃ low high, bracket.Spans low high ∧ bottom ≤ low ∧ high ≤ top)
    (fun _ bracket rate ⟨low, high, spans, above, below⟩ _ _ => by
      obtain ⟨lower, upper⟩ :=
        roundedMiddle_mem spans.representable_low spans.representable_high spans.ordered
      cases decide (target < rate) with
      | true => exact ⟨_, _, spans.halve_true, above.trans lower, below⟩
      | false => exact ⟨_, _, spans.halve_false, above, upper.trans below⟩)
    steps 0 range bracket ⟨bottom, top, spans, le_rfl, le_rfl⟩ reached
  exact within

end Search

/-! ## Progress and standstill -/

/-- The settings with another limit of steps. -/
def Settings.withIterations {α : Type} (settings : Settings α) (iterations : ℤ) : Settings α :=
  { settings with searchIterations := iterations }

/-- The limit of steps counts for the loop alone. -/
theorem Transmission.searchSnr_withIterations
    {α : Type} [Scalar α] {tx : Transmission α} {target : α} {mode : WifiMode α}
    (inside : 0.0 < target ∧ target < 1.0) (own : tx.modeFor commonStation = .ok mode)
    (coded : mode.isCodedOfdm) (settings : Settings α) (iterations : ℤ) :
    tx.searchSnr (settings.withIterations iterations) target =
      (bisect (tx.bitFailure settings mode) target settings.searchPrecision iterations.toNat
        settings.range >>= fun bracket =>
          if bracket.gap ≤ settings.searchPrecision then .ok bracket.low
          else .error (.searchNotConverged iterations bracket.gap)) := by
  rw [searchSnr_of_mode inside own coded]
  rfl

section Accepted

variable {settings : Settings (Rounded tail)} {bottom top step : ℝ}
  (accepted : settings.checked = .ok settings) (low_eq : settings.searchLow.exact = finite bottom)
  (high_eq : settings.searchHigh.exact = finite top)
  (precision_eq : settings.searchPrecision.exact = finite step)
include accepted

include low_eq high_eq in
private theorem Settings.spans_of_checked : settings.range.Spans bottom top := by
  rw [checked] at accepted
  split_ifs at accepted with _ ordered
  obtain ⟨positive, below⟩ := ordered
  rw [lt_iff exact_zero low_eq] at positive
  rw [lt_iff low_eq high_eq] at below
  exact ⟨low_eq, high_eq, positive, below.le⟩

include precision_eq in
private theorem Settings.precision_pos_of_checked : 0 < step := by
  rw [checked] at accepted
  split_ifs at accepted with _ _ limited
  by_contra small
  exact limited (Or.inl ((le_iff precision_eq exact_zero).mpr (not_lt.mp small)))

end Accepted

/-- A bracket that the search goes on with is within the range, and its middle is strictly between
its ends wherever a double is. -/
theorem progress_of_bisect
    {failure : Rounded tail → Except (Fault (Rounded tail)) (Rounded tail)}
    {target precision : Rounded tail} {range : Bracket (Rounded tail)} {bottom top step : ℝ}
    (spans : range.Spans bottom top) (precision_eq : precision.exact = finite step)
    (positive : 0 < step) {halvings : ℕ}
    (reached : bisect failure target precision halvings range = .ok bracket)
    (wide : ¬bracket.gap ≤ precision) :
    (range.low ≤ bracket.low ∧ bracket.low < bracket.high ∧ bracket.high ≤ range.high) ∧
      (bracket.low < bracket.middle ∧ bracket.middle < bracket.high ↔ bracket.Divisible) ∧
      (¬bracket.Divisible →
        (bracket.middle = bracket.low ∨ bracket.middle = bracket.high) ∧
          finite (2 ^ 52 * step) < bracket.low.exact) := by
  obtain ⟨low, high, within, above, below⟩ := exists_spans_of_bisect spans reached
  have apart := within.low_lt_high_of_wide positive.le precision_eq wide
  refine ⟨⟨?_, ?_, ?_⟩, within.middle_strict_iff, fun full => ⟨?_, ?_⟩⟩
  · rwa [le_iff spans.low_eq within.low_eq]
  · rwa [lt_iff within.low_eq within.high_eq]
  · rwa [le_iff within.high_eq spans.high_eq]
  · exact within.middle_of_not_divisible apart full
  · rw [within.low_eq, finite_lt_finite]
    exact within.precision_lt_low_of_not_divisible apart full precision_eq positive wide

/-- A bracket that is not narrow enough is halved at a number strictly between its ends wherever
there is one. A search with steps enough answers, or it stands still between neighbours above
`2 ^ 52` times the precision, or a middle cannot be evaluated; more steps change nothing then. -/
theorem searchSnr_progress
    (tx : Transmission (Rounded tail)) {mode : WifiMode (Rounded tail)}
    (own : tx.modeFor commonStation = .ok mode) (coded : mode.isCodedOfdm)
    (settings : Settings (Rounded tail)) (accepted : settings.checked = .ok settings)
    {bottom top step : ℝ} (low_eq : settings.searchLow.exact = finite bottom)
    (high_eq : settings.searchHigh.exact = finite top)
    (precision_eq : settings.searchPrecision.exact = finite step)
    {target : Rounded tail} (inside : 0.0 < target ∧ target < 1.0) :
    (∀ (halvings : ℕ) (bracket : Bracket (Rounded tail)),
      bisect (tx.bitFailure settings mode) target settings.searchPrecision halvings
          settings.range = .ok bracket →
        ¬bracket.gap ≤ settings.searchPrecision →
          (settings.searchLow ≤ bracket.low ∧ bracket.low < bracket.high ∧
            bracket.high ≤ settings.searchHigh) ∧
          (bracket.low < bracket.middle ∧ bracket.middle < bracket.high ↔ bracket.Divisible) ∧
          (¬bracket.Divisible →
            (bracket.middle = bracket.low ∨ bracket.middle = bracket.high) ∧
              finite (2 ^ 52 * step) < bracket.low.exact)) ∧
    ∃ enough : ℕ,
      (∃ bracket : Bracket (Rounded tail), bracket.gap ≤ settings.searchPrecision ∧
        ∀ iterations : ℤ, enough ≤ iterations →
          tx.searchSnr (settings.withIterations iterations) target = .ok bracket.low) ∨
      (∃ bracket : Bracket (Rounded tail),
        bisect (tx.bitFailure settings mode) target settings.searchPrecision enough
            settings.range = .ok bracket ∧
          ¬bracket.gap ≤ settings.searchPrecision ∧ ¬bracket.Divisible ∧
            ∀ iterations : ℤ, enough ≤ iterations →
              tx.searchSnr (settings.withIterations iterations) target =
                .error (.searchNotConverged iterations bracket.gap)) ∨
      (∃ (bracket : Bracket (Rounded tail)) (fault : Fault (Rounded tail)),
        tx.bitFailure settings mode bracket.middle = .error fault ∧
          ∀ iterations : ℤ, enough ≤ iterations →
            tx.searchSnr (settings.withIterations iterations) target = .error fault) := by
  have positive := Settings.precision_pos_of_checked accepted precision_eq
  have spans := Settings.spans_of_checked accepted low_eq high_eq
  refine ⟨fun halvings bracket => progress_of_bisect spans precision_eq positive, ?_⟩
  obtain ⟨count, size⟩ := exists_nat_ge ((top - bottom) / lastPlace)
  rw [div_le_iff₀ lastPlace_pos] at size
  obtain ⟨enough, outcome, rests, reached⟩ :
      ComesToRest (tx.bitFailure settings mode) target settings.searchPrecision settings.range :=
    comesToRest positive.le precision_eq spans size
  have answers (iterations : ℤ) (many : enough ≤ iterations) :=
    (Transmission.searchSnr_withIterations inside own coded settings iterations).trans
      (congrArg (· >>= _) (reached iterations.toNat (by omega)))
  refine ⟨enough, ?_⟩
  cases rests with
  | narrow narrow =>
      refine Or.inl ⟨_, narrow, fun iterations many => ?_⟩
      rw [answers iterations many, ok_bind, if_pos narrow]
  | stalled wide full =>
      refine Or.inr (Or.inl ⟨_, reached enough le_rfl, wide, full, fun iterations many => ?_⟩)
      rw [answers iterations many, ok_bind, if_neg wide]
  | failed failed =>
      refine Or.inr (Or.inr ⟨_, _, failed, fun iterations many => ?_⟩)
      rw [answers iterations many, error_bind]

/-! ## Neighbours as the range -/

section Tight

private theorem isDouble_succ_one : IsDouble (1 + 2 ^ (-52 : ℤ)) :=
  isDouble_of_abs_le ⟨2 ^ 52 + 1, -52, by norm_num, by norm_num, by norm_num⟩ (by norm_num)

private theorem isDouble_small : IsDouble (2 ^ (-60 : ℤ)) :=
  isDouble_of_abs_le (representable_two_zpow (by norm_num)) (by norm_num)

private theorem isDouble_half : IsDouble (2 ^ (-1 : ℤ)) :=
  isDouble_of_abs_le (representable_two_zpow (by norm_num)) (by norm_num)

/-- The range is one and the next double, and the precision is finer. -/
noncomputable def tightSettings : Settings (Rounded gaussianTail) where
  headerWidth := 20.0
  searchLow := 1.0
  searchHigh := ⟨finite (1 + 2 ^ (-52 : ℤ)), isDouble_succ_one⟩
  searchPrecision := ⟨finite (2 ^ (-60 : ℤ)), isDouble_small⟩
  searchIterations := 2000

private theorem exact_tightLow : tightSettings.searchLow.exact = finite 1 :=
  exact_one

private theorem exact_twenty : (20.0 : Rounded tail).exact = finite 20 := by
  have whole : (20.0 : ℝ) = (20 : ℤ) := by norm_num
  rw [exact_ofScientific_of_eq_intCast (by norm_num) whole, Int.cast_ofNat]

theorem not_twenty_nonpos : ¬(20.0 : Rounded tail) ≤ 0.0 := by
  rw [le_iff exact_twenty exact_zero]
  norm_num

private theorem tightSettings_checked : tightSettings.checked = .ok tightSettings := by
  have wide : ¬tightSettings.headerWidth ≤ 0.0 := not_twenty_nonpos
  have ordered : 0.0 < tightSettings.searchLow ∧
      tightSettings.searchLow < tightSettings.searchHigh := by
    rw [lt_iff exact_zero exact_tightLow, lt_iff exact_tightLow rfl]
    norm_num
  have limited : ¬(tightSettings.searchPrecision ≤ 0.0 ∨ tightSettings.searchIterations < 1) := by
    rw [le_iff rfl exact_zero]
    norm_num [tightSettings]
  rw [Settings.checked, if_neg wide, if_neg (not_not.mpr ordered), if_neg limited]

/-- A mode of coded OFDM, which a search asks for. -/
noncomputable def densestMode : WifiMode (Rounded gaussianTail) where
  name := "OfdmRate54Mbps"
  modulation := .ofdm
  constellation := 64
  codeRate := .threeQuarters
  fixedRate := 0.0

private theorem spans_tightRange : tightSettings.range.Spans 1 (1 + 2 ^ (-52 : ℤ)) :=
  Settings.spans_of_checked tightSettings_checked exact_tightLow rfl

private theorem not_divisible_tightRange : ¬tightSettings.range.Divisible := by
  rw [spans_tightRange.divisible_iff]
  rintro ⟨middle, representable, above, below⟩
  have next := add_gridStep_le spans_tightRange.representable_low representable one_pos above
  have last : gridStep 1 = 2 ^ (0 - 52 : ℤ) :=
    gridStep_eq_of_mem (by norm_num) (by norm_num) (by norm_num)
  rw [last, zero_sub] at next
  exact absurd below (not_lt.mpr next)

private theorem not_narrow_tightRange :
    ¬tightSettings.range.gap ≤ tightSettings.searchPrecision := by
  have kept : Representable (2 ^ (-52 : ℤ)) := representable_two_zpow (by norm_num)
  rw [spans_tightRange.gap_le_iff rfl, add_sub_cancel_left, nearest_of_representable kept]
  norm_num

private theorem half_inside : (0.0 : Rounded tail) < ⟨finite (2 ^ (-1 : ℤ)), isDouble_half⟩ ∧
    (⟨finite (2 ^ (-1 : ℤ)), isDouble_half⟩ : Rounded tail) < 1.0 := by
  rw [lt_iff exact_zero rfl, lt_iff rfl exact_one]
  norm_num

/-- The search does not get anywhere from the first middle on. -/
theorem tightSettings_noProgress :
    ¬tightSettings.range.gap ≤ tightSettings.searchPrecision ∧
      ¬(tightSettings.range.low < tightSettings.range.middle ∧
        tightSettings.range.middle < tightSettings.range.high) := by
  obtain ⟨progress, _⟩ := searchSnr_progress
    (.single densestMode 20.0 1 800 not_twenty_nonpos) rfl rfl tightSettings tightSettings_checked
    exact_tightLow rfl rfl half_inside
  obtain ⟨_, strict, _⟩ := progress 0 tightSettings.range rfl not_narrow_tightRange
  exact ⟨not_narrow_tightRange, strict.not.mpr not_divisible_tightRange⟩

end Tight

end WifiLink
