import WifiLink.Fault

/-!
Evenly spaced decibel values and the ratios they stand for.
-/

namespace WifiLink

variable {α : Type} [Scalar α]

/-- Evenly spaced values: the first of them, the step from one to the next, and their number. -/
structure Grid (α : Type) where
  start : α
  step : α
  size : Nat
deriving Repr

/-- The number of steps from a start to a stop; a billionth of a step is granted, so that a last
point missed by rounding alone still counts. -/
def gridSteps (start stop step : α) : Except ArithmeticFault Int :=
  Scalar.floor ((stop - start) / step + 1e-9)

namespace Grid

/-- The grid from a start by a step up to and with a stop. -/
def between (start stop step : α) : Except (Fault α) (Grid α) :=
  if step ≤ 0.0 then .error .stepNotPositive
  else if stop < start then .error .stopBelowStart
  else do
    let steps ← gridSteps start stop step
    let size ← Scalar.room α (steps + 1).toNat
    return { start, step, size }

def value (grid : Grid α) (index : Nat) : α := grid.start + grid.step * Scalar.ofCount index

def values (grid : Grid α) : List α := (List.range grid.size).map grid.value

/-- The results at as many numbers from a first one on, after the results that are done, the latest
of which comes first. -/
private def resultsFrom {ε β : Type} (result : Nat → Except ε β) :
    (left first : Nat) → (done : List β) → Except ε (List β)
  | 0, _, done => .ok done.reverse
  | left + 1, first, done => do
      let next ← result first
      resultsFrom result left (first + 1) (next :: done)

/-- The results at the values in order, or the first failure. No value is looked at before its
turn. -/
def results {ε β : Type} (grid : Grid α) (result : α → Except ε β) : Except ε (List β) :=
  resultsFrom (fun index => result (grid.value index)) grid.size 0 []

private theorem resultsFrom_eq {ε β : Type} (result : Nat → Except ε β) (left first : Nat)
    (done : List β) :
    resultsFrom result left first done =
      (done.reverse ++ ·) <$> (List.range' first left).mapM result := by
  induction left generalizing first done with
  | zero => simp [resultsFrom]; rfl
  | succ left ih =>
      simp only [resultsFrom, ih, List.range'_succ, List.mapM_cons]
      cases result first with
      | error => rfl
      | ok next =>
          simp only [bind, Except.bind, List.reverse_cons, List.append_assoc, List.cons_append,
            List.nil_append]
          cases (List.range' (first + 1) left).mapM result <;> rfl

/-- The results of a grid are those of its values. -/
theorem results_eq {ε β : Type} (grid : Grid α) (result : α → Except ε β) :
    grid.results result = grid.values.mapM result := by
  simp [results, values, resultsFrom_eq, List.range_eq_range', List.mapM_map, Function.comp_def]

end Grid

/-- The values from a start by a step up to and with a stop. -/
def decibelGrid (start stop step : α) : Except (Fault α) (List α) := do
  return (← Grid.between start stop step).values

/-- The ratio that a number of decibels stands for. -/
def ratioOfDecibels (decibels : α) : α := Scalar.tenToThe (decibels / 10.0)

end WifiLink
