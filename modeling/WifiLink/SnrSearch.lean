import WifiLink.Estimate

/-!
The signal-to-noise ratio at which a single payload bit fails with a given probability, by
halving a bracket of ratios. The bracket is as narrow as the settings ask or has been halved as
often as they allow.
-/

namespace WifiLink

variable {α : Type} [Scalar α]

/-- Two ratios between which the search goes on. -/
structure Bracket (α : Type) where
  low : α
  high : α
deriving Repr

namespace Bracket

def gap (bracket : Bracket α) : α := bracket.high - bracket.low

def middle (bracket : Bracket α) : α := bracket.low + bracket.gap / 2.0

/-- The upper half while the middle still fails too often, else the lower one. -/
def halve (bracket : Bracket α) (failsTooOften : Bool) : Bracket α :=
  if failsTooOften then { bracket with low := bracket.middle }
  else { bracket with high := bracket.middle }

end Bracket

/-- Halves a bracket at most a given number of times, until it is narrow enough. -/
def bisect (failure : α → Except (Fault α) α) (target precision : α) :
    Nat → Bracket α → Except (Fault α) (Bracket α)
  | 0, bracket => .ok bracket
  | steps + 1, bracket =>
      if bracket.gap ≤ precision then .ok bracket
      else do
        let rate ← failure bracket.middle
        bisect failure target precision steps (bracket.halve (target < rate))

namespace Transmission

/-- The probability that one payload bit fails. The payload's mode is its own, so only a
multi-user transmission, whose common fields are asked for, is taken at the header rate. -/
def bitFailure (tx : Transmission α) (settings : Settings α) (mode : WifiMode α) (snr : α) :
    Except (Fault α) α := do
  let basis := if tx.isMultiUser then RateBasis.header else .payload
  let rate := tx.rateOn basis mode commonStation settings
  let result ← estimateWith tx rate { mode, snr, bits := .integer 1 }
  return 1.0 - result.rate

/-- The lower end of the final bracket about the ratio at which a payload bit fails with the
target probability. -/
def searchSnr (tx : Transmission α) (settings : Settings α) (target : α) :
    Except (Fault α) α :=
  if ¬(0.0 < target ∧ target < 1.0) then .error (.targetOutOfRange target)
  else do
    let mode ← tx.modeFor commonStation
    if mode.isCodedOfdm then
      let bracket ← bisect (tx.bitFailure settings mode) target settings.searchPrecision
        settings.searchIterations.toNat ⟨settings.searchLow, settings.searchHigh⟩
      if bracket.gap ≤ settings.searchPrecision then return bracket.low
      else .error (.searchNotConverged settings.searchIterations bracket.gap)
    else .error (.targetUnmodeled mode.name)

end Transmission

end WifiLink
