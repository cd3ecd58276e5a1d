import WifiLink.SnrSearch
import WifiLink.Proofs.Exact.Basic
import WifiLink.Proofs.Outcome

/-!
# Runs of the search

What one halving preserves holds of the bracket that a search ends with. Between real ends every
halving takes half of the gap away, whichever half it keeps; a bracket without an upper end is
never narrowed.
-/

namespace WifiLink

/-! ## Runs -/

section Runs

variable {α : Type} [Scalar α] {failure : α → Except (Fault α) α} {target precision : α}

/-- The upper end never moves when every middle fails too often. -/
def Bracket.climbed (bracket : Bracket α) : ℕ → Bracket α
  | 0 => bracket
  | halvings + 1 => (bracket.climbed halvings).halve true

/-- What a halving preserves holds of the final bracket, which is narrow enough unless no step is
left. -/
theorem bisect_induction
    {motive : ℕ → Bracket α → Prop}
    (halves : ∀ (halvings : ℕ) (bracket : Bracket α) (rate : α),
      motive halvings bracket → ¬bracket.gap ≤ precision →
        failure bracket.middle = .ok rate →
          motive (halvings + 1) (bracket.halve (target < rate)))
    {steps halvings : ℕ} {bracket final : Bracket α} (holds : motive halvings bracket)
    (ended : bisect failure target precision steps bracket = .ok final) :
    ∃ more ≤ steps, motive (halvings + more) final ∧
      (more = steps ∨ final.gap ≤ precision) := by
  induction steps generalizing halvings bracket with
  | zero =>
      cases ended
      exact ⟨0, le_rfl, holds, Or.inl rfl⟩
  | succ steps inductionHypothesis =>
      by_cases narrow : bracket.gap ≤ precision
      · rw [bisect, if_pos narrow] at ended
        cases ended
        exact ⟨0, Nat.zero_le _, holds, Or.inr narrow⟩
      · rw [bisect, if_neg narrow] at ended
        obtain ⟨rate, failed, ended⟩ := bind_eq_ok_iff.mp ended
        obtain ⟨more, few, reached, last⟩ :=
          inductionHypothesis (halves _ _ _ holds narrow failed) ended
        refine ⟨more + 1, Nat.succ_le_succ few, ?_, last.imp_left (congrArg (· + 1))⟩
        rw [← Nat.add_assoc, Nat.add_right_comm]
        exact reached

end Runs

open Exact

variable {tail : ErrorTail}

/-! ## Real ends -/

namespace Bracket

/-- A bracket between two real numbers. -/
def between (low high : ℝ) : Bracket (Exact tail) := ⟨finite low, finite high⟩

section Between

variable (low high : ℝ)

@[simp]
theorem gap_between : (between low high : Bracket (Exact tail)).gap = finite (high - low) :=
  finite_sub_finite high low

@[simp]
theorem middle_between :
    (between low high : Bracket (Exact tail)).middle = finite (low + (high - low) / 2) := by
  have two : (2.0 : ℝ) ≠ 0 := by norm_num
  rw [middle, gap_between, ofScientific_eq, finite_div_finite _ two]
  norm_num [between]

theorem halve_between_true :
    (between low high : Bracket (Exact tail)).halve true =
      between (low + (high - low) / 2) high := by
  rw [halve, if_pos rfl, middle_between]
  rfl

theorem halve_between_false :
    (between low high : Bracket (Exact tail)).halve false =
      between low (low + (high - low) / 2) := by
  rw [halve, if_neg Bool.false_ne_true, middle_between]
  rfl

/-- Climbing leaves of the gap what halving leaves of it. -/
theorem climbed_between (halvings : ℕ) :
    (between low high : Bracket (Exact tail)).climbed halvings =
      between (high - (high - low) / 2 ^ halvings) high := by
  induction halvings with
  | zero =>
      rw [climbed, pow_zero, div_one, sub_sub_cancel]
  | succ halvings inductionHypothesis =>
      rw [climbed, inductionHypothesis, halve_between_true, pow_succ]
      congr 1
      field_simp
      ring

end Between

/-! ## Brackets without an upper end -/

/-- The gap is infinite or no number. -/
def Unbounded (bracket : Bracket (Exact tail)) : Prop :=
  (∃ low : ℝ, bracket = ⟨finite low, infinite false⟩) ∨ bracket.gap = notANumber

section Unbounded

variable {bracket : Bracket (Exact tail)}

theorem middle_of_infinite (low : ℝ) :
    (⟨finite low, infinite false⟩ : Bracket (Exact tail)).middle = infinite false := by
  have half : (infinite false / 2.0 : Exact tail) = infinite false := by
    have positive : ¬(2.0 : ℝ) < 0 := by norm_num
    change infinite (false != decide ((2.0 : ℝ) < 0)) = infinite false
    rw [decide_eq_false positive]
    rfl
  change finite low + infinite false / 2.0 = infinite false
  rw [half]
  rfl

theorem middle_of_missing_gap (missing : bracket.gap = notANumber) :
    bracket.middle = notANumber := by
  rw [middle, missing, notANumber_div, add_notANumber]

theorem unbounded_halve (unbounded : Unbounded bracket) (failsTooOften : Bool) :
    Unbounded (bracket.halve failsTooOften) := by
  rcases unbounded with ⟨low, rfl⟩ | missing
  · rw [halve, middle_of_infinite]
    cases failsTooOften with
    | true => exact Or.inr rfl
    | false => exact Or.inl ⟨low, rfl⟩
  · rw [halve, middle_of_missing_gap missing]
    cases failsTooOften with
    | true => exact Or.inr (sub_notANumber bracket.high)
    | false => exact Or.inr (notANumber_add (-bracket.low))

theorem unbounded_climbed (unbounded : Unbounded bracket) (halvings : ℕ) :
    Unbounded (bracket.climbed halvings) := by
  induction halvings with
  | zero => exact unbounded
  | succ halvings inductionHypothesis => exact unbounded_halve inductionHypothesis true

theorem unbounded_of_bisect
    {failure : Exact tail → Except (Fault (Exact tail)) (Exact tail)}
    {target precision : Exact tail} {steps : ℕ} {final : Bracket (Exact tail)}
    (unbounded : Unbounded bracket)
    (ended : bisect failure target precision steps bracket = .ok final) :
    Unbounded final := by
  obtain ⟨_, _, kept, _⟩ := @bisect_induction _ _ failure target precision (fun _ => Unbounded)
    (fun _ _ _ unbounded _ _ => unbounded_halve unbounded _) steps 0 bracket final unbounded ended
  exact kept

theorem not_narrow_of_unbounded (unbounded : Unbounded bracket) (precision : ℝ) :
    ¬bracket.gap ≤ finite precision := by
  rcases unbounded with ⟨low, rfl⟩ | missing
  · exact Bool.false_ne_true
  · rw [missing]
    exact not_notANumber_le _

end Unbounded

end Bracket

end WifiLink
