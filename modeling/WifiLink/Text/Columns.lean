import WifiLink.Fault

/-!
Tables in columns for reading: every column as wide as its widest cell, cells flush right, two
spaces between columns. The first row says how many columns there are.
-/

namespace WifiLink.Text

/-- A text filled up with spaces on the left to a number of characters. -/
def flushRight (width : Nat) (text : String) : String :=
  String.ofList (List.replicate (width - text.length) ' ') ++ text

/-- The cells of a column. Every row must have one. -/
def column? (rows : List (List String)) (index : Nat) : Option (List String) :=
  rows.mapM (·[index]?)

/-- The width of the widest of the cells. -/
def widest (cells : List String) : Nat := (cells.map String.length).foldl max 0

/-- The widths of the columns of the first row; there must be a first row, and no other may have
fewer cells. -/
def columnWidths? (rows : List (List String)) : Option (List Nat) := do
  let first ← rows.head?
  (List.range first.length).mapM fun index => (column? rows index).map widest

/-- The lines of a table. Cells beyond the columns of the first row are left out. -/
def columnLines {α : Type} (rows : List (List String)) : Except (Fault α) (List String) :=
  match columnWidths? rows with
  | none => .error .cellMissing
  | some widths =>
      .ok (rows.map fun cells => "  ".intercalate (List.zipWith flushRight widths cells))

/-- Lines as one text, each with its end. -/
def unlines (lines : List String) : String := String.join (lines.map (· ++ "\n"))

end WifiLink.Text
