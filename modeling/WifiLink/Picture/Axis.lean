import WifiLink.Double.Arithmetic
import WifiLink.Fault
import WifiLink.Sweep.Curves

/-!
The horizontal axis of a figure: the stretch of numbers that it shows, and its ticks at round
numbers. Near the greatest doubles a stretch may have no ticks.

The figure asks for no axis of its own; the plotting library finds one when it saves the figure.
What follows stands for the part of this library that decides whether there is an axis.
-/

namespace WifiLink

/-- A stretch of numbers from its least to its greatest. -/
structure Span where
  low : Float
  high : Float

namespace Span

/-- The stretch without bounds. -/
def boundless : Span := ⟨-1.0 / 0.0, 1.0 / 0.0⟩

/-- The least stretch with given numbers; without any it has no bounds. -/
def around : List Float → Span
  | [] => boundless
  | first :: rest =>
      rest.foldl
        (fun span x =>
          ⟨if x < span.low then x else span.low, if span.high < x then x else span.high⟩)
        ⟨first, first⟩

/-- The least positive double of full precision. -/
def leastNormal : Float := 2.2250738585072014e-308

/-- The bound with the greater magnitude, without its sign. -/
def magnitude (span : Span) : Float :=
  if span.low.abs < span.high.abs then span.high.abs else span.low.abs

/-- A stretch that is long enough to be divided. One that has no bounds, or that is all but zero,
becomes a small one around zero. If the bounds agree up to a tolerance, both are moved apart by a
share of their magnitude. -/
def opened (share tolerance : Float) (span : Span) : Span :=
  if !span.low.isFinite || !span.high.isFinite then ⟨-share, share⟩
  else if span.magnitude < 1e6 / tolerance * leastNormal then ⟨-share, share⟩
  else if span.high - span.low ≤ span.magnitude * tolerance then
    ⟨span.low - share * span.low.abs, span.high + share * span.high.abs⟩
  else span

/-- The margin at each end of what is shown, as a share of the length; there is none if that is
no number. -/
def margin (span : Span) : Float :=
  let width := (span.high - span.low) * 0.05
  if width.isFinite then width else 0.0

/-- What is shown of an axis that has to hold a stretch. -/
def shown (held : Span) : Except ArithmeticFault Span :=
  let held := held.opened 0.05 1e-15
  let wide := opened 1e-12 1e-13 ⟨held.low - held.margin, held.high + held.margin⟩
  if wide.low.isFinite && wide.high.isFinite then .ok (wide.opened 0.05 1e-15)
  else .error .boundNotFinite

/-- The greatest power of ten that is at most a positive number. -/
def decade (x : Float) : Float := Float.pow 10.0 (Float.floor (Float.log10 x))

/-- The lengths a step may have, in decades. -/
def stepSizes : List Float := [0.1, 0.2, 0.25, 0.5, 1.0, 2.0, 2.5, 5.0, 10.0, 20.0]

/-- A stretch has at most so many steps. -/
def stepLimit : Float := 9.0

/-- Where ticks are counted from: zero, unless the stretch is short and far away from it; then a
power of ten. -/
def origin (span : Span) : Float :=
  let middle := (span.high + span.low) / 2.0
  if middle.abs / (span.high - span.low) < 100.0 then 0.0
  else if middle < 0.0 then -decade middle.abs
  else decade middle.abs

/-- The shortest step of which a stretch has no more than it may. -/
def step (span : Span) : Float :=
  let least := (span.high - span.low) / stepLimit
  ((stepSizes.map (· * decade least)).find? (least ≤ ·)).getD least

/-- The number of whole steps in a distance, and the part of a step that is left. -/
def wholeSteps (step distance : Float) : Except ArithmeticFault (Int × Float) :=
  match Double.floorRatio? (Double.parts distance) (Double.parts step) with
  | some count => .ok (count, (distance - Float.ofInt count * step) / step)
  | none => .error .countNotANumber

/-- The part of a step that counts as none. -/
def stepTolerance : Float := 1e-10

/-- The ticks from the last one at or before a stretch to the first one at or after it, whole
numbers of steps from the origin. -/
def ticks (span : Span) : Except ArithmeticFault (List Float) := do
  let span := span.opened 1e-13 1e-14
  let step := span.step
  let low := span.low - span.origin
  let high := span.high - span.origin
  let (before, _) ← wholeSteps step low
  let first := Float.ofInt before * step
  let (skipped, leftBelow) ← wholeSteps step (low - first)
  let (passed, leftAbove) ← wholeSteps step (high - first)
  let start := if (leftBelow - 1.0).abs < stepTolerance then skipped + 1 else skipped
  let stop := if leftAbove.abs < stepTolerance then passed else passed + 1
  return (List.range (stop + 1 - start).toNat).map fun (count : Nat) =>
    Float.ofInt (start + count) * step + first + span.origin

end Span

/-- An axis: what it shows, and its ticks. -/
structure Axis where
  shown : Span
  ticks : List Float

namespace Axis

/-- The axis that holds a stretch. The labels of its ticks have as many digits as tell them apart,
which is a whole number only if the ticks are finite. -/
def holding (span : Span) : Except ArithmeticFault Axis := do
  let shown ← span.shown
  let ticks ← shown.ticks
  if ticks.all Float.isFinite then return { shown, ticks }
  else throw .floorOfInfinity

end Axis

namespace Figure

/-- The horizontal axis of a figure. It holds the points of which both numbers are finite. -/
def axis (figure : Figure Float) : Except ArithmeticFault Axis :=
  let points := figure.lines.flatMap Curve.points
  let finite := points.filter fun point => point.1.isFinite && point.2.isFinite
  Axis.holding (Span.around (finite.map (·.1)))

/-- A figure that the plotting library can draw, because it has an axis. -/
def drawable (figure : Figure Float) : Except (Fault Float) (Figure Float) := do
  let _ ← figure.axis
  return figure

end Figure

end WifiLink
