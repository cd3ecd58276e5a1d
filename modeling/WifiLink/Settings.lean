import WifiLink.Fault

/-!
Settings of the estimator. Every bound is a refusal: a setting is turned down when it compares
as too small, so one that compares with nothing passes.
-/

namespace WifiLink

/-- The width in MHz that headers are sent at, and the bounds, final precision and greatest
number of steps of the search for a signal-to-noise ratio. -/
structure Settings (α : Type) where
  headerWidth : α
  searchLow : α
  searchHigh : α
  searchPrecision : α
  searchIterations : Int
deriving Repr

namespace Settings

variable {α : Type} [Scalar α]

/-- The settings in force when none are given. -/
def standard : Settings α where
  headerWidth := 20.0
  searchLow := 1e-25
  searchHigh := 1e25
  searchPrecision := 2e-12
  searchIterations := 2000

/-- Settings are turned down for a header width that is not positive, then for search bounds out
of order, then for a precision or a number of steps that is not positive. -/
def checked (settings : Settings α) : Except (Fault α) (Settings α) :=
  if settings.headerWidth ≤ 0.0 then .error .headerWidthNotPositive
  else if ¬(0.0 < settings.searchLow ∧ settings.searchLow < settings.searchHigh) then
    .error .searchBoundsDisordered
  else if settings.searchPrecision ≤ 0.0 ∨ settings.searchIterations < 1 then
    .error .searchLimitsNotPositive
  else .ok settings

end Settings

end WifiLink
