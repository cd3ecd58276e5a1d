import WifiLink.Proofs.Exact.Basic
import WifiLink.Proofs.Outcome
import WifiLink.Sweep.Grid

/-!
# Grids in exact numbers

A grid is an arithmetic progression from the start. It has every point that is not above the stop,
and none that is above it by more than the billionth of a step that is granted. Exact numbers have
room for any number of points.
-/

namespace WifiLink

open Exact

section Values

variable {α : Type} [Scalar α] {start stop step : α}

theorem decibelGrid_eq_ok_iff {points : List α} :
    decibelGrid start stop step = .ok points ↔
      ∃ grid, Grid.between start stop step = .ok grid ∧ points = grid.values := by
  rw [decibelGrid, bind_eq_ok_iff]
  constructor
  · rintro ⟨grid, spaced, equal⟩
    cases equal
    exact ⟨grid, spaced, rfl⟩
  · rintro ⟨grid, spaced, rfl⟩
    exact ⟨grid, spaced, rfl⟩

private theorem decibelGrid_of_standing (standing : step ≤ 0.0) :
    decibelGrid start stop step = .error .stepNotPositive := by
  rw [decibelGrid, Grid.between, if_pos standing, error_bind]

private theorem decibelGrid_of_downward (forward : ¬step ≤ 0.0) (downward : stop < start) :
    decibelGrid start stop step = .error .stopBelowStart := by
  rw [decibelGrid, Grid.between, if_neg forward, if_pos downward, error_bind]

/-- Where step and order are right, only a calculation can fail. -/
theorem calculates_decibelGrid (forward : ¬step ≤ 0.0) (upward : ¬stop < start) :
    Calculates (decibelGrid start stop step) := by
  rw [decibelGrid, Grid.between, if_neg forward, if_neg upward]
  refine .bind (.bind (.lift _) fun steps => ?_) fun grid => .ok _
  exact .bind (.lift _) fun size => .ok _

/-- Of every kind of numbers, a step that is at most zero is refused first. -/
theorem decibelGrid_eq_stepNotPositive_iff :
    decibelGrid start stop step = .error .stepNotPositive ↔ step ≤ 0.0 := by
  refine ⟨fun refused => ?_, decibelGrid_of_standing⟩
  by_contra forward
  by_cases downward : stop < start
  · rw [decibelGrid_of_downward forward downward] at refused
    cases refused
  · obtain ⟨cause, equal⟩ := calculates_decibelGrid forward downward _ refused
    cases equal

private theorem decibelGrid_eq_stopBelowStart_iff :
    decibelGrid start stop step = .error .stopBelowStart ↔ ¬step ≤ 0.0 ∧ stop < start := by
  refine ⟨fun refused => ?_, fun both => decibelGrid_of_downward both.1 both.2⟩
  by_cases standing : step ≤ 0.0
  · rw [decibelGrid_of_standing standing] at refused
    cases refused
  refine ⟨standing, ?_⟩
  by_contra upward
  obtain ⟨cause, equal⟩ := calculates_decibelGrid standing upward _ refused
  cases equal

end Values

variable {tail : ErrorTail} {start stop step : ℝ}

private theorem ofCount_eq (count : ℕ) : (Scalar.ofCount count : Exact tail) = finite count := by
  have whole : (OfScientific.ofScientific count false 0 : ℝ) = count := by
    rw [← Rat.cast_ofScientific]
    change ((Rat.ofScientific count false 0 : ℚ) : ℝ) = count
    rw [Rat.ofScientific_false_def, pow_zero, mul_one, Rat.cast_natCast]
  rw [Scalar.ofCount, ofScientific_eq, whole]

/-- The number of points of a grid from a start by a step up to and with a stop. -/
noncomputable def gridSize (start stop step : ℝ) : ℕ := (⌊(stop - start) / step + 1e-9⌋ + 1).toNat

/-- A point belongs to the grid if it is above the stop by no more than is granted. -/
theorem lt_gridSize_iff (positive : 0 < step) (index : ℕ) :
    index < gridSize start stop step ↔ start + index * step ≤ stop + 1e-9 * step := by
  have counted : index < gridSize start stop step ↔
      (index : ℤ) ≤ ⌊(stop - start) / step + 1e-9⌋ := by
    unfold gridSize
    omega
  rw [counted, Int.le_floor, Int.cast_natCast, ← sub_le_iff_le_add, le_div_iff₀ positive]
  constructor <;> intro bound <;> linarith

section Ordered

variable (positive : 0 < step) (ordered : start ≤ stop)
include positive

private theorem lt_gridSize_of_le {index : ℕ} (reached : start + index * step ≤ stop) :
    index < gridSize start stop step := by
  rw [lt_gridSize_iff positive]
  linarith

/-- Where whole steps lead to the stop, it is the last point. -/
theorem gridSize_of_multiple {count : ℕ} (whole : stop - start = count * step) :
    gridSize start stop step = count + 1 := by
  have last : count < gridSize start stop step := lt_gridSize_of_le positive (by linarith)
  have beyond : ¬count + 1 < gridSize start stop step := by
    rw [lt_gridSize_iff positive]
    push_cast
    linarith
  omega

include ordered

private theorem between_finite :
    Grid.between (finite start : Exact tail) (finite stop) (finite step) =
      .ok ⟨finite start, finite step, gridSize start stop step⟩ := by
  have forward : ¬(finite step : Exact tail) ≤ 0.0 := by
    rw [finite_nonpos_iff]
    exact not_le.mpr positive
  have upward : ¬(finite stop : Exact tail) < finite start := not_lt.mpr ordered
  have steps : gridSteps (finite start : Exact tail) (finite stop) (finite step) =
      .ok ⌊(stop - start) / step + 1e-9⌋ := by
    rw [gridSteps, finite_sub_finite, finite_div_finite _ positive.ne', ofScientific_eq,
      finite_add_finite, floor_finite]
  rw [Grid.between, if_neg forward, if_neg upward, steps]
  rfl

theorem decibelGrid_finite :
    decibelGrid (finite start : Exact tail) (finite stop) (finite step) =
      .ok ((List.range (gridSize start stop step)).map fun index : ℕ =>
        finite (start + index * step)) := by
  refine decibelGrid_eq_ok_iff.mpr ⟨_, between_finite positive ordered, ?_⟩
  refine List.map_congr_left fun index _ => ?_
  rw [Grid.value, ofCount_eq, finite_mul_finite, finite_add_finite, mul_comm]

end Ordered

/-- The points of an arithmetic progression up to and with a stop. -/
structure InclusiveProgression (start stop step : ℝ) (points : List (Exact tail)) : Prop where
  /-- A first point is there, and each next one is a step further. -/
  progression : ∃ size, 1 ≤ size ∧
    points = (List.range size).map fun index : ℕ => finite (start + index * step)
  /-- No point up to the stop is left out. -/
  complete : ∀ index : ℕ, start + index * step ≤ stop → finite (start + index * step) ∈ points
  /-- No point is above the stop by more than a billionth of a step. -/
  bounded : ∀ point : ℝ, finite point ∈ points → point ≤ stop + 1e-9 * step
  /-- The last point is the stop where whole steps lead to it. -/
  inclusive : ∀ count : ℤ, stop - start = count * step → points.getLast? = some (finite stop)

private theorem inclusiveProgression (positive : 0 < step) (ordered : start ≤ stop) :
    InclusiveProgression start stop step
      ((List.range (gridSize start stop step)).map fun index : ℕ =>
        (finite (start + index * step) : Exact tail)) := by
  constructor
  case progression =>
    have first : start + (0 : ℕ) * step ≤ stop := by
      rw [Nat.cast_zero, zero_mul, add_zero]
      exact ordered
    exact ⟨_, lt_gridSize_of_le positive first, rfl⟩
  case complete =>
    intro index reached
    exact List.mem_map.mpr ⟨index, List.mem_range.mpr (lt_gridSize_of_le positive reached), rfl⟩
  case bounded =>
    intro point member
    obtain ⟨index, inside, equal⟩ := List.mem_map.mp member
    rw [← Exact.finite.inj equal]
    exact (lt_gridSize_iff positive index).mp (List.mem_range.mp inside)
  case inclusive =>
    intro count whole
    have nonneg : 0 ≤ count := by
      have product : 0 ≤ (count : ℝ) * step := by linarith
      exact_mod_cast nonneg_of_mul_nonneg_left product positive
    obtain ⟨steps, rfl⟩ := Int.eq_ofNat_of_zero_le nonneg
    rw [Int.cast_natCast] at whole
    rw [gridSize_of_multiple positive whole, List.range_succ, List.map_append, List.map_singleton,
      List.getLast?_concat, ← whole, add_sub_cancel]

/-- A grid is refused for a step that is not positive, then for a stop below the start, and for
nothing else. Otherwise it is the inclusive progression. -/
theorem decibelGrid_inclusive (start stop step : ℝ) :
    (decibelGrid (finite start : Exact tail) (finite stop) (finite step) =
        .error .stepNotPositive ↔ step ≤ 0) ∧
      (decibelGrid (finite start : Exact tail) (finite stop) (finite step) =
        .error .stopBelowStart ↔ 0 < step ∧ stop < start) ∧
      (0 < step → start ≤ stop → ∃ points,
        decibelGrid (finite start : Exact tail) (finite stop) (finite step) = .ok points ∧
          InclusiveProgression start stop step points) := by
  rw [decibelGrid_eq_stepNotPositive_iff, decibelGrid_eq_stopBelowStart_iff, finite_nonpos_iff,
    not_le, finite_lt_finite]
  exact ⟨Iff.rfl, Iff.rfl, fun positive ordered =>
    ⟨_, decibelGrid_finite positive ordered, inclusiveProgression positive ordered⟩⟩

end WifiLink
