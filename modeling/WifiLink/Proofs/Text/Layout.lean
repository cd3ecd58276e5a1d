import WifiLink.Proofs.Text.Columns
import WifiLink.Proofs.Text.Lines
import WifiLink.Text.Split

/-!
# Where the columns of a table stand

A column takes the same positions in every line of a table, and the next one begins two positions
behind it. Each line shows one row: its cells stand flush right in the columns, and every column has
a cell that fills it.
-/

namespace WifiLink.Text

/-- A table without a first row, or with a row that has fewer cells than the first. -/
inductive Ragged {β : Type} : List (List β) → Prop
  | empty : Ragged []
  | shorter {first row : List β} {rest : List (List β)} :
      row ∈ rest → row.length < first.length → Ragged (first :: rest)

/-- The positions that a column takes in a line. -/
structure Column where
  start : Nat
  width : Nat

namespace Column

/-- The first position behind a column. -/
def stop (column : Column) : Nat := column.start + column.width

/-- The two positions behind a column. -/
def gap (column : Column) : Column := ⟨column.stop, 2⟩

/-- The characters of a line in a column. -/
def chars (column : Column) (line : List Char) : List Char :=
  (line.drop column.start).take column.width

/-- A column holds a cell: the spaces that are missing to its width, and then the cell. -/
def Holds (column : Column) (line : List Char) (cell : String) : Prop :=
  ∃ missing, missing + cell.length = column.width ∧
    column.chars line = List.replicate missing ' ' ++ cell.toList

end Column

/-- A line that shows a row in columns. Cells of the row beyond the last column are left out. -/
structure Shows (columns : List Column) (row : List String) (line : List Char) : Prop where
  /-- Every column holds the cell of the row with its number. -/
  holds : ∀ (index : Nat) (column : Column), columns[index]? = some column →
    ∃ cell, row[index]? = some cell ∧ column.Holds line cell
  /-- Two spaces divide a column from the next one. -/
  divided : ∀ column ∈ columns.dropLast, column.gap.chars line = [' ', ' ']
  /-- The line ends with the last column. -/
  ended : ∀ column ∈ columns.getLast?, line.length = column.stop

/-- The lines of a table in columns. -/
structure InColumns (rows : List (List String)) (columns : List Column) (lines : List String) :
    Prop where
  /-- There is a column for each cell of the first row. -/
  count : ∀ first ∈ rows.head?, columns.length = first.length
  /-- The first column begins with the line. -/
  begins : ∀ column ∈ columns.head?, column.start = 0
  /-- Any other begins two positions behind the one before it. -/
  apart : columns.IsChain fun left right => right.start = left.stop + 2
  /-- Every column has a cell that fills it. -/
  filled : ∀ (index : Nat) (column : Column), columns[index]? = some column →
    ∃ row ∈ rows, ∃ cell, row[index]? = some cell ∧ cell.length = column.width
  /-- There is a line for each row, and it shows that row. -/
  shows : List.Forall₂ (fun row line => Shows columns row line.toList) rows lines
  /-- All lines have one length. -/
  sameLength : ∃ length, ∀ line ∈ lines, line.length = length

/-! ## Widths -/

theorem ragged_cons_iff {β : Type} {first : List β} {rest : List (List β)} :
    Ragged (first :: rest) ↔ ∃ row ∈ rest, row.length < first.length := by
  constructor
  · rintro (_ | ⟨member, fewer⟩)
    exact ⟨_, member, fewer⟩
  · rintro ⟨row, member, fewer⟩
    exact .shorter member fewer

theorem ragged_map_iff {β γ : Type} (shown : β → γ) (rows : List (List β)) :
    Ragged (rows.map (·.map shown)) ↔ Ragged rows := by
  cases rows with
  | nil => exact ⟨fun _ => .empty, fun _ => .empty⟩
  | cons first rest =>
      rw [List.map_cons, ragged_cons_iff, ragged_cons_iff]
      simp

theorem columnWidths?_eq_none_iff {rows : List (List String)} :
    columnWidths? rows = none ↔ Ragged rows := by
  cases rows with
  | nil => exact ⟨fun _ => .empty, fun _ => rfl⟩
  | cons first rest =>
      rw [← Option.not_isSome_iff_eq_none, isSome_columnWidths?_cons, ragged_cons_iff]
      simp

/-- The results of a run over a list are the answers to its items. -/
theorem map_of_mapM {β γ : Type} {answer : β → Option γ} {items : List β} {results : List γ}
    (answered : items.mapM answer = some results) :
    items.map answer = results.map some := by
  induction items generalizing results with
  | nil =>
      cases answered
      rfl
  | cons item rest inductionHypothesis =>
      simp only [List.mapM_cons, Option.bind_eq_bind, Option.bind_eq_some_iff] at answered
      obtain ⟨result, found, others, answeredRest, ⟨⟩⟩ := answered
      rw [List.map_cons, List.map_cons, found, inductionHypothesis answeredRest]

theorem mem_of_column? {rows : List (List String)} {index : Nat} {cells : List String}
    (answered : column? rows index = some cells) {cell : String} :
    cell ∈ cells ↔ ∃ row ∈ rows, row[index]? = some cell := by
  have same : some cell ∈ rows.map (·[index]?) ↔ some cell ∈ cells.map some := by
    rw [map_of_mapM answered]
  simpa using same.symm

theorem widest_eq_max {cells : List String} (nonempty : cells.map String.length ≠ []) :
    widest cells = (cells.map String.length).max nonempty := by
  rw [widest, List.foldl_max_eq_max nonempty, Nat.zero_max]

theorem length_le_widest {cells : List String} {cell : String} (member : cell ∈ cells) :
    cell.length ≤ widest cells := by
  have listed : cell.length ∈ cells.map String.length := List.mem_map_of_mem member
  rw [widest_eq_max (List.ne_nil_of_mem listed)]
  exact List.le_max_of_mem listed

theorem exists_length_eq_widest {cells : List String} (nonempty : cells ≠ []) :
    ∃ cell ∈ cells, cell.length = widest cells := by
  have lengths : cells.map String.length ≠ [] := mt List.map_eq_nil_iff.mp nonempty
  rw [widest_eq_max lengths]
  exact List.mem_map.mp (List.max_mem lengths)

section Widths

variable {first : List String} {rest : List (List String)} {widths : List Nat}

theorem length_columnWidths? (found : columnWidths? (first :: rest) = some widths) :
    widths.length = first.length := by
  have same := congrArg List.length (map_of_mapM found)
  simpa using same.symm

/-- A column is as wide as the widest cell that the rows have there, and every row has one. -/
theorem cells_of_columnWidths? (found : columnWidths? (first :: rest) = some widths)
    {index width : Nat} (listed : widths[index]? = some width) :
    (∀ row ∈ first :: rest, ∃ cell, row[index]? = some cell ∧ cell.length ≤ width) ∧
      ∃ row ∈ first :: rest, ∃ cell, row[index]? = some cell ∧ cell.length = width := by
  have inside : index < first.length := by
    rw [← length_columnWidths? found]
    exact (List.getElem?_eq_some_iff.mp listed).1
  have answer : (column? (first :: rest) index).map widest = some width := by
    have same := congrArg (·[index]?) (map_of_mapM found)
    simpa [listed, inside] using same
  obtain ⟨cells, column, rfl⟩ := Option.map_eq_some_iff.mp answer
  have cellOf (row : List String) (member : row ∈ first :: rest) :
      ∃ cell, row[index]? = some cell ∧ cell ∈ cells := by
    have reaches : index < row.length :=
      (isSome_column? _ _).mp (Option.isSome_of_eq_some column) row member
    have cell := List.getElem?_eq_getElem reaches
    exact ⟨_, cell, (mem_of_column? column).mpr ⟨row, member, cell⟩⟩
  constructor
  · intro row member
    obtain ⟨cell, found, listed⟩ := cellOf row member
    exact ⟨cell, found, length_le_widest listed⟩
  · obtain ⟨_, _, nonempty⟩ := cellOf first List.mem_cons_self
    obtain ⟨cell, member, fills⟩ := exists_length_eq_widest (List.ne_nil_of_mem nonempty)
    obtain ⟨row, shown, found⟩ := (mem_of_column? column).mp member
    exact ⟨row, shown, cell, found, fills⟩

end Widths

/-! ## Lines -/

/-- The columns of the given widths, from a position on. -/
def columnsFrom (start : Nat) : List Nat → List Column
  | [] => []
  | width :: rest => ⟨start, width⟩ :: columnsFrom (start + width + 2) rest

theorem map_width_columnsFrom (start : Nat) (widths : List Nat) :
    (columnsFrom start widths).map Column.width = widths := by
  induction widths generalizing start with
  | nil => rfl
  | cons width rest inductionHypothesis =>
      rw [columnsFrom, List.map_cons, inductionHypothesis]

theorem length_columnsFrom (start : Nat) (widths : List Nat) :
    (columnsFrom start widths).length = widths.length := by
  rw [← List.length_map, map_width_columnsFrom]

theorem getElem?_width {start : Nat} {widths : List Nat} {index : Nat} {column : Column}
    (listed : (columnsFrom start widths)[index]? = some column) :
    widths[index]? = some column.width := by
  rw [← map_width_columnsFrom start widths, List.getElem?_map, listed]
  rfl

theorem start_of_head?_columnsFrom {start : Nat} {widths : List Nat} :
    ∀ column ∈ (columnsFrom start widths).head?, column.start = start := by
  cases widths with
  | nil => exact nofun
  | cons width rest =>
      rintro _ ⟨⟩
      rfl

theorem isChain_columnsFrom (start : Nat) (widths : List Nat) :
    (columnsFrom start widths).IsChain fun left right => right.start = left.stop + 2 := by
  induction widths generalizing start with
  | nil => exact .nil
  | cons width rest inductionHypothesis =>
      exact List.isChain_cons.mpr ⟨start_of_head?_columnsFrom, inductionHypothesis _⟩

/-- The line of a row in columns of the given widths. -/
def rowLine (widths : List Nat) (row : List String) : String :=
  "  ".intercalate (List.zipWith flushRight widths row)

theorem toList_flushRight (width : Nat) (text : String) :
    (flushRight width text).toList =
      List.replicate (width - text.length) ' ' ++ text.toList := by
  rw [flushRight, String.toList_append, String.toList_ofList]

theorem length_toList_flushRight {width : Nat} {text : String} (fits : text.length ≤ width) :
    (flushRight width text).toList.length = width := by
  rw [toList_flushRight, List.length_append, List.length_replicate, String.length_toList]
  omega

theorem toList_rowLine_singleton (width : Nat) (cell : String) (beyond : List String) :
    (rowLine [width] (cell :: beyond)).toList = (flushRight width cell).toList := by
  simp [rowLine]

theorem toList_rowLine_cons_cons (width next : Nat) (widths : List Nat) (cell second : String)
    (cells : List String) :
    (rowLine (width :: next :: widths) (cell :: second :: cells)).toList =
      (flushRight width cell).toList ++
        ([' ', ' '] ++ (rowLine (next :: widths) (second :: cells)).toList) := by
  simp [rowLine]

theorem chars_append {column : Column} {before part after : List Char}
    (start : column.start = before.length) (width : column.width = part.length) :
    column.chars (before ++ (part ++ after)) = part := by
  rw [Column.chars, start, width, List.drop_left, List.take_left]

theorem holds_flushRight {before : List Char} {width : Nat} {cell : String}
    (fits : cell.length ≤ width) (after : List Char) :
    Column.Holds ⟨before.length, width⟩
      (before ++ ((flushRight width cell).toList ++ after)) cell := by
  refine ⟨width - cell.length, Nat.sub_add_cancel fits, ?_⟩
  rw [chars_append rfl (length_toList_flushRight fits).symm, toList_flushRight]

namespace Shows

variable {line : List Char} {column : Column}

theorem nil (row : List String) (line : List Char) : Shows [] row line where
  holds := nofun
  divided := nofun
  ended := nofun

theorem singleton {cell : String} {beyond : List String} (holds : column.Holds line cell)
    (ended : line.length = column.stop) : Shows [column] (cell :: beyond) line where
  holds
    | 0, _, rfl => ⟨cell, rfl, holds⟩
  divided := nofun
  ended
    | _, rfl => ended

theorem cons {next : Column} {columns : List Column} {cell : String} {cells : List String}
    (holds : column.Holds line cell) (divided : column.gap.chars line = [' ', ' '])
    (others : Shows (next :: columns) cells line) :
    Shows (column :: next :: columns) (cell :: cells) line where
  holds
    | 0, _, rfl => ⟨cell, rfl, holds⟩
    | index + 1, other, listed => others.holds index other listed
  divided := by
    rw [List.dropLast_cons_cons, List.forall_mem_cons]
    exact ⟨divided, others.divided⟩
  ended := by
    rw [List.getLast?_cons_cons]
    exact others.ended

end Shows

/-- What stands before the columns is kept general for the induction: it is what has been written of
the line. -/
theorem shows_rowLine (before : List Char) {widths : List Nat} {row : List String}
    (fits : ∀ (index width : Nat), widths[index]? = some width →
      ∃ cell, row[index]? = some cell ∧ cell.length ≤ width) :
    Shows (columnsFrom before.length widths) row (before ++ (rowLine widths row).toList) := by
  induction widths generalizing before row with
  | nil => exact .nil row _
  | cons width widths inductionHypothesis =>
      obtain _ | ⟨cell, cells⟩ := row
      · obtain ⟨_, ⟨⟩, _⟩ := fits 0 width rfl
      obtain ⟨_, ⟨⟩, cellFits⟩ := fits 0 width rfl
      have othersFit : ∀ (index width : Nat), widths[index]? = some width →
          ∃ cell, cells[index]? = some cell ∧ cell.length ≤ width :=
        fun index => fits (index + 1)
      have pieceLength := length_toList_flushRight cellFits
      -- Only a column with another one behind it has a gap, so the last one is a case of its own.
      obtain _ | ⟨next, widths⟩ := widths
      · rw [toList_rowLine_singleton, ← List.append_nil (flushRight width cell).toList]
        refine .singleton (holds_flushRight cellFits []) ?_
        rw [List.append_nil, List.length_append, pieceLength]
        rfl
      obtain _ | ⟨second, cells⟩ := cells
      · obtain ⟨_, ⟨⟩, _⟩ := othersFit 0 next rfl
      rw [toList_rowLine_cons_cons]
      refine .cons (holds_flushRight cellFits _) ?_ ?_
      · rw [← List.append_assoc]
        refine chars_append ?_ rfl
        rw [List.length_append, pieceLength]
        rfl
      · have written : (before ++ ((flushRight width cell).toList ++ [' ', ' '])).length =
            before.length + width + 2 := by
          rw [List.length_append, List.length_append, pieceLength, ← Nat.add_assoc]
          rfl
        have later := inductionHypothesis
          (before ++ ((flushRight width cell).toList ++ [' ', ' '])) othersFit
        rw [written, List.append_assoc, List.append_assoc] at later
        exact later

theorem columnLines_of_ragged {α : Type} {rows : List (List String)} (ragged : Ragged rows) :
    (columnLines rows : Except (Fault α) (List String)) = .error .cellMissing := by
  rw [columnLines, columnWidths?_eq_none_iff.mpr ragged]

theorem columnLines_of_widths {α : Type} {rows : List (List String)} {widths : List Nat}
    (found : columnWidths? rows = some widths) :
    (columnLines rows : Except (Fault α) (List String)) = .ok (rows.map (rowLine widths)) := by
  rw [columnLines, found]
  rfl

theorem inColumns_of_widths {rows : List (List String)} {widths : List Nat}
    (found : columnWidths? rows = some widths) :
    InColumns rows (columnsFrom 0 widths) (rows.map (rowLine widths)) := by
  obtain _ | ⟨first, rest⟩ := rows
  · cases found
  have shows : ∀ row ∈ first :: rest,
      Shows (columnsFrom 0 widths) row (rowLine widths row).toList := fun row member =>
    shows_rowLine [] fun _ _ listed => (cells_of_columnWidths? found listed).1 row member
  refine ⟨?_, start_of_head?_columnsFrom, isChain_columnsFrom 0 widths, ?_, ?_, ?_⟩
  · rintro _ ⟨⟩
    rw [length_columnsFrom, length_columnWidths? found]
  · intro index column listed
    exact (cells_of_columnWidths? found (getElem?_width listed)).2
  · rw [List.forall₂_map_right_iff, List.forall₂_same]
    exact shows
  · cases last : (columnsFrom 0 widths).getLast? with
    | some column =>
        refine ⟨column.stop, List.forall_mem_map.mpr fun row member => ?_⟩
        rw [← String.length_toList]
        exact (shows row member).ended column last
    | none =>
        -- Without a column every line is empty.
        have none : widths = [] := by
          rw [← List.length_eq_zero_iff, ← length_columnsFrom 0, List.getLast?_eq_none_iff.mp last]
          rfl
        refine ⟨0, List.forall_mem_map.mpr fun row _ => ?_⟩
        rw [none]
        rfl

/-! ## Printed lines -/

theorem mem_intercalate {β : Type} {divider : List β} {parts : List (List β)} {item : β}
    (member : item ∈ divider.intercalate parts) :
    item ∈ divider ∨ ∃ part ∈ parts, item ∈ part := by
  induction parts with
  | nil => cases member
  | cons part others inductionHypothesis =>
      by_cases alone : others = []
      · subst alone
        rw [List.intercalate_singleton] at member
        exact .inr ⟨part, List.mem_cons_self, member⟩
      rw [List.intercalate_cons_of_ne_nil alone, List.mem_append, List.mem_append] at member
      obtain (inside | between) | later := member
      · exact .inr ⟨part, List.mem_cons_self, inside⟩
      · exact .inl between
      · exact (inductionHypothesis later).imp_right fun ⟨other, listed, inside⟩ =>
          ⟨other, List.mem_cons_of_mem part listed, inside⟩

theorem mem_rowLine {widths : List Nat} {row : List String} {c : Char}
    (member : c ∈ (rowLine widths row).toList) :
    c = ' ' ∨ ∃ cell ∈ row, c ∈ cell.toList := by
  rw [rowLine, String.toList_intercalate] at member
  obtain divider | ⟨_, listed, inside⟩ := mem_intercalate member
  · left
    simpa using divider
  obtain ⟨_, piece, rfl⟩ := List.mem_map.mp listed
  rw [← List.map_uncurry_zip_eq_zipWith] at piece
  obtain ⟨⟨width, cell⟩, pair, rfl⟩ := List.mem_map.mp piece
  rw [Function.uncurry_apply_pair, toList_flushRight, List.mem_append] at inside
  obtain missing | ofCell := inside
  · exact .inl (List.eq_of_mem_replicate missing)
  · exact .inr ⟨cell, (List.of_mem_zip pair).2, ofCell⟩

theorem toList_unlines (lines : List String) :
    (unlines lines).toList = lines.flatMap fun line => line.toList ++ ['\n'] := by
  simp [unlines, String.toList_join, List.flatMap_map]

theorem exists_splitAt (separator : Char) (text : List Char) :
    ∃ first others, splitAt separator text = first :: others := by
  cases text with
  | nil => exact ⟨[], [], rfl⟩
  | cons c rest =>
      rw [splitAt]
      split
      · exact ⟨_, _, rfl⟩
      · split <;> exact ⟨_, _, rfl⟩

theorem splitAt_append {separator : Char} {part : List Char} (unbroken : separator ∉ part)
    (rest : List Char) :
    splitAt separator (part ++ separator :: rest) = part :: splitAt separator rest := by
  induction part with
  | nil =>
      obtain ⟨first, others, parts⟩ := exists_splitAt separator rest
      rw [List.nil_append, splitAt, parts]
      exact if_pos rfl
  | cons c part inductionHypothesis =>
      rw [List.mem_cons, not_or] at unbroken
      rw [List.cons_append, splitAt, inductionHypothesis unbroken.2]
      exact if_neg (Ne.symm unbroken.1)

/-- Cut at its line feeds, a text of lines has these lines, and nothing behind the last feed. -/
theorem split_unlines {lines : List String} (unbroken : ∀ line ∈ lines, '\n' ∉ line.toList) :
    split '\n' (unlines lines) = lines ++ [""] := by
  rw [split, toList_unlines]
  induction lines with
  | nil => rfl
  | cons line lines inductionHypothesis =>
      rw [List.forall_mem_cons] at unbroken
      rw [List.flatMap_cons, List.append_assoc, List.singleton_append,
        splitAt_append unbroken.1, List.map_cons, inductionHypothesis unbroken.2,
        String.ofList_toList, List.cons_append]

theorem lines_unlines {texts : List String}
    (unbroken : ∀ text ∈ texts, ∀ c ∈ text.toList, ¬isLineEnd c) :
    lines (unlines texts).toList = texts.map String.toList := by
  rw [toList_unlines]
  apply lines_of_cut
  induction texts with
  | nil => exact .empty
  | cons text texts inductionHypothesis =>
      rw [List.forall_mem_cons] at unbroken
      rw [List.flatMap_cons, List.append_assoc, List.map_cons]
      exact .ended unbroken.1 (.inr ⟨'\n', by decide, rfl⟩) nofun (inductionHypothesis unbroken.2)

end WifiLink.Text
