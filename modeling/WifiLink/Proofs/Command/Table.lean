import WifiLink.Proofs.Text.Layout
import WifiLink.Proofs.Command.Steps

/-!
# Printed tables

A table is printed in columns, one line for each row, or nothing is printed of it.
-/

namespace WifiLink.Command

private theorem run_printTable_of_ragged {rows : List (List String)} (ragged : Text.Ragged rows)
    (session : Session) :
    (printTable rows).run.run session = (.error (.fault .cellMissing), session) := by
  rw [printTable, Text.columnLines_of_ragged ragged]
  rfl

/-- How rows are printed whose texts have no line feed. Where there is no row, or one with fewer
cells than the first, nothing is. Otherwise there is one line for each row, all of one length, and
the columns of the first row's cells stand at the same positions in all of them, two spaces apart
and each as wide as its longest text. The lines can be told apart by their line feeds, and where no
text has a line end of any kind, by all line ends. -/
theorem printTable_inColumns (rows : List (List Literal)) (session : Session)
    (unbroken : ∀ row ∈ rows, ∀ cell ∈ row, '\n' ∉ cell.display.toList) :
    (Text.Ragged rows →
      (printTable (rows.map (·.map Literal.display))).run.run session =
        (.error (.fault .cellMissing), session)) ∧
    (¬Text.Ragged rows →
      ∃ columns lines,
        (printTable (rows.map (·.map Literal.display))).run.run session =
          (.ok (), { session with printed := session.printed ++ Text.unlines lines }) ∧
        Text.InColumns (rows.map (·.map Literal.display)) columns lines ∧
        Text.split '\n' (Text.unlines lines) = lines ++ [""] ∧
        ((∀ row ∈ rows, ∀ cell ∈ row, ∀ c ∈ cell.display.toList, ¬Text.isLineEnd c) →
          Text.lines (Text.unlines lines).toList = lines.map String.toList)) := by
  rw [← Text.ragged_map_iff Literal.display]
  refine ⟨fun ragged => run_printTable_of_ragged ragged session, fun whole => ?_⟩
  obtain ⟨widths, found⟩ :=
    Option.ne_none_iff_exists'.mp (mt Text.columnWidths?_eq_none_iff.mp whole)
  have inLine {line : String} {c : Char}
      (member : line ∈ (rows.map (·.map Literal.display)).map (Text.rowLine widths))
      (inside : c ∈ line.toList) :
      c = ' ' ∨ ∃ row ∈ rows, ∃ cell ∈ row, c ∈ cell.display.toList := by
    obtain ⟨texts, ofRow, rfl⟩ := List.mem_map.mp member
    obtain ⟨row, listed, rfl⟩ := List.mem_map.mp ofRow
    refine (Text.mem_rowLine inside).imp_right fun ⟨text, ofCell, inText⟩ => ?_
    obtain ⟨cell, shown, rfl⟩ := List.mem_map.mp ofCell
    exact ⟨row, listed, cell, shown, inText⟩
  refine ⟨_, _, run_printTable_of_lines (Text.columnLines_of_widths found) session,
    Text.inColumns_of_widths found, Text.split_unlines fun line member feed => ?_,
    fun unended => Text.lines_unlines fun line member c inside => ?_⟩
  · obtain ⟨⟨⟩⟩ | ⟨row, listed, cell, shown, ofCell⟩ := inLine member feed
    exact unbroken row listed cell shown ofCell
  · obtain rfl | ⟨row, listed, cell, shown, ofCell⟩ := inLine member inside
    · decide
    · exact unended row listed cell shown c ofCell

example : (Text.columnLines [["é", "7"], ["None", "", "True"]] :
    Except (Fault Float) (List String)) = .ok ["   é  7", "None   "] := by
  rfl

/-- Two rows, the second with a cell beyond the columns of the first. -/
def overhangingRows : List (List Literal) :=
  [[.text "é", .integer 7], [.none, .text "", .boolean true]]

theorem overhangingRows_inColumns :
    (∀ row ∈ overhangingRows, ∀ cell ∈ row, '\n' ∉ cell.display.toList) ∧
      ¬Text.Ragged overhangingRows ∧
      ∃ columns lines,
        (printTable (overhangingRows.map (·.map Literal.display))).run.run {} =
          (.ok (), { printed := Text.unlines lines }) ∧
        Text.InColumns (overhangingRows.map (·.map Literal.display)) columns lines := by
  have unbroken : ∀ row ∈ overhangingRows, ∀ cell ∈ row, '\n' ∉ cell.display.toList := by decide
  have whole : ¬Text.Ragged overhangingRows := by
    rw [overhangingRows, Text.ragged_cons_iff]
    decide
  obtain ⟨columns, lines, printed, layout, _⟩ :=
    (printTable_inColumns overhangingRows {} unbroken).2 whole
  exact ⟨unbroken, whole, columns, lines, printed, layout⟩

end WifiLink.Command
