import WifiLink.Proofs.Code.Pairwise
import WifiLink.Proofs.Exact.GaussianTail

/-!
# Refused pairwise errors

An error rate is looked at by the binomial terms alone. At every distance from two on there is a
term, so what is no probability is refused there; at distance one there is none, and any error rate
is taken.
-/

namespace WifiLink

section Refusal

variable {α : Type} [Scalar α] {errorRate : α}

/-! ## Error rates that are looked at -/

/-- A term of a probability is not refused. Its combinations may be too many and its logarithms
beyond reach. -/
theorem calculates_binomial
    (inside : 0.0 ≤ errorRate ∧ errorRate ≤ 1.0) {k n : Int} (inRange : 0 ≤ k ∧ k ≤ n) :
    Calculates (binomial k errorRate n) := by
  rw [binomial, if_neg (not_not.mpr inRange), if_neg (not_not.mpr inside)]
  split_ifs
  · exact .ok _
  · exact .ok _
  · exact .ok _
  · exact .ok _
  · apply Calculates.bind (.lift _)
    intro ways
    dsimp only
    split_ifs
    · exact .ok _
    · exact .lift _

private theorem calculates_addBinomials
    (inside : 0.0 ≤ errorRate ∧ errorRate ≤ 1.0) {distance : Int} (count : ℕ) {first : Int}
    (nonneg : 0 ≤ first) (bound : first + count ≤ distance + 1) (sum : α) :
    Calculates (addBinomials errorRate distance count first sum) := by
  induction count generalizing first sum with
  | zero => exact .ok sum
  | succ count inductionHypothesis =>
      rw [addBinomials]
      apply Calculates.bind
      · apply calculates_binomial inside
        omega
      · intro term
        apply inductionHypothesis <;> omega

private theorem calculates_binomialSum
    (inside : 0.0 ≤ errorRate ∧ errorRate ≤ 1.0) {distance first : Int}
    (nonneg : 0 ≤ first) (bound : first ≤ distance) :
    Calculates (binomialSum errorRate distance first) := by
  apply calculates_addBinomials inside _ nonneg
  omega

private theorem calculates_pairwiseError
    (inside : 0.0 ≤ errorRate ∧ errorRate ≤ 1.0) {distance : Int} (positive : 1 ≤ distance) :
    Calculates (pairwiseError errorRate distance) := by
  rw [pairwiseError, if_neg (not_lt.mpr positive)]
  by_cases even : distance % 2 = 0
  · rw [if_pos even, pairwiseEven, if_neg (not_not.mpr even)]
    apply Calculates.bind
    · apply calculates_binomialSum inside <;> omega
    · intro decided
      apply Calculates.bind
      · apply calculates_binomial inside
        omega
      · exact fun tied => .ok _
  · rw [if_neg even, pairwiseOdd, if_neg (by omega)]
    apply calculates_binomialSum inside <;> omega

/-! ## Error rates that are not -/

/-- The sum at distance one is empty. -/
theorem pairwiseError_one (errorRate : α) : pairwiseError errorRate 1 = .ok 0.0 :=
  rfl

private theorem pairwiseError_of_nonpos {distance : Int} (none : distance < 1) (errorRate : α) :
    pairwiseError errorRate distance = .error (.distanceNotPositive distance) :=
  if_pos none

end Refusal

/-- What only a calculation can keep back is not refused. -/
theorem Calculates.not_refused {α β : Type} {answer : Except (Fault α) β}
    (calculates : Calculates answer) : ¬Refused answer := by
  rintro ⟨fault, failed, refuses⟩
  obtain ⟨cause, rfl⟩ := calculates fault failed
  cases refuses

/-- For every kind of number, a pairwise error is refused just for a distance below one and, at any
distance other than one, for an error rate outside the unit interval, be it too small, too large,
infinite or no number. Each refusal names what is out of range. Distance one looks at no error
rate and answers zero for all of them. Of an error rate that is a probability nothing but a
calculation can keep the answer back. -/
theorem refused_pairwiseError_iff {α : Type} [Scalar α] (errorRate : α) (distance : Int) :
    (Refused (pairwiseError errorRate distance) ↔
      distance < 1 ∨ distance ≠ 1 ∧ ¬(0.0 ≤ errorRate ∧ errorRate ≤ 1.0)) ∧
    (distance < 1 →
      pairwiseError errorRate distance = .error (.distanceNotPositive distance)) ∧
    (distance = 1 → pairwiseError errorRate distance = .ok 0.0) ∧
    (1 < distance → ¬(0.0 ≤ errorRate ∧ errorRate ≤ 1.0) →
      pairwiseError errorRate distance = .error (.probabilityOutOfRange errorRate)) ∧
    (1 < distance → 0.0 ≤ errorRate ∧ errorRate ≤ 1.0 →
      Calculates (pairwiseError errorRate distance)) := by
  refine ⟨⟨?_, ?_⟩, ?_, ?_, ?_, ?_⟩
  · intro refused
    by_contra accepted
    rw [not_or, not_lt, not_and_or, not_not, not_not] at accepted
    obtain ⟨positive, rfl | inside⟩ := accepted
    · exact not_refused_of_eq_ok (pairwiseError_one errorRate) refused
    · exact (calculates_pairwiseError inside positive).not_refused refused
  · rintro (none | ⟨other, outside⟩)
    · rw [pairwiseError_of_nonpos none]
      exact refused_error rfl
    · rcases lt_or_gt_of_ne other with none | further
      · rw [pairwiseError_of_nonpos none]
        exact refused_error rfl
      · rw [pairwiseError_of_not_probability outside further]
        exact refused_error rfl
  · exact fun none => pairwiseError_of_nonpos none errorRate
  · rintro rfl
    exact pairwiseError_one errorRate
  · exact fun further outside => pairwiseError_of_not_probability outside further
  · exact fun further inside => calculates_pairwiseError inside further.le

open Exact in
/-- Two errors in every bit pass at distance one and are refused at distance two. -/
theorem pairwiseError_two_errors :
    ¬((0.0 : Exact gaussianTail) ≤ finite 2 ∧ (finite 2 : Exact gaussianTail) ≤ 1.0) ∧
      pairwiseError (finite 2 : Exact gaussianTail) 1 = .ok (finite 0) ∧
      ¬Refused (pairwiseError (finite 2 : Exact gaussianTail) 1) ∧
      Refused (pairwiseError (finite 2 : Exact gaussianTail) 2) := by
  have outside :
      ¬((0.0 : Exact gaussianTail) ≤ finite 2 ∧ (finite 2 : Exact gaussianTail) ≤ 1.0) := by
    norm_num
  obtain ⟨first, _, certain, _⟩ := refused_pairwiseError_iff (finite 2 : Exact gaussianTail) 1
  obtain ⟨second, _⟩ := refused_pairwiseError_iff (finite 2 : Exact gaussianTail) 2
  refine ⟨outside, ?_, ?_, ?_⟩
  · rw [certain rfl, zero_eq_finite]
  · rw [first]
    norm_num
  · rw [second]
    exact .inr ⟨by decide, outside⟩

end WifiLink
