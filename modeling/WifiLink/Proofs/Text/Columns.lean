import WifiLink.Code.Spectrum
import WifiLink.Proofs.Text.Csv
import WifiLink.Text.Columns

/-!
# Which tables have columns

A table can be printed when it has a first row and no other row has fewer cells. The rows of a
sweep and the distance spectra can always be.
-/

namespace WifiLink

namespace Text

/-- A run over a list gives results when each step gives one. -/
theorem isSome_mapM {β γ : Type} (answer : β → Option γ) (items : List β) :
    (items.mapM answer).isSome = items.all fun item => (answer item).isSome := by
  induction items with
  | nil => rfl
  | cons item rest inductionHypothesis =>
      rw [List.mapM_cons, List.all_cons, ← inductionHypothesis]
      cases answer item with
      | none => rfl
      | some result => cases rest.mapM answer <;> rfl

theorem isSome_column? (rows : List (List String)) (index : Nat) :
    (column? rows index).isSome ↔ ∀ row ∈ rows, index < row.length := by
  rw [column?, isSome_mapM]
  simp

theorem isSome_columnWidths?_cons (first : List String) (rest : List (List String)) :
    (columnWidths? (first :: rest)).isSome ↔ ∀ row ∈ rest, first.length ≤ row.length := by
  have widths : columnWidths? (first :: rest) =
      (List.range first.length).mapM fun index =>
        (column? (first :: rest) index).map widest := rfl
  rw [widths, isSome_mapM, List.all_eq_true]
  simp only [List.mem_range, Option.isSome_map, isSome_column?, List.mem_cons, forall_eq_or_imp]
  constructor
  · intro columns row member
    -- Every column of the first row reaches into this one, so the last of them does.
    by_contra shorter
    exact Nat.lt_irrefl _ ((columns row.length (by omega)).2 row member)
  · intro longer index inside
    exact ⟨inside, fun row member => Nat.lt_of_lt_of_le inside (longer row member)⟩

end Text

end WifiLink
