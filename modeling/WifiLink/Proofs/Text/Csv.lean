import Mathlib
import WifiLink.Sweep.Table

/-!
# Reading comma-separated values

The format is stated by what a cell, a row and a table may be written as. The reader takes just
the texts of the format, so that each of them has one table, and the text that is written of a
table is one of its texts whatever stands in the cells.
-/

namespace WifiLink

namespace Text

/-! ## The format -/

/-- A character that ends nothing. -/
def IsPlain (c : Char) : Prop := c ≠ ',' ∧ c ≠ '"' ∧ c ≠ '\r' ∧ c ≠ '\n'

/-- Every quote of the second text is written twice in the first. -/
inductive Doubled : List Char → List Char → Prop
  | nil : Doubled [] []
  | quote {written cell : List Char} :
      Doubled written cell → Doubled ('"' :: '"' :: written) ('"' :: cell)
  | other {c : Char} {written cell : List Char} :
      c ≠ '"' → Doubled written cell → Doubled (c :: written) (c :: cell)

/-- A cell is written as it is, if no character in it ends anything, or between quotes. -/
inductive CellForm : List Char → List Char → Prop
  | bare {cell : List Char} : (∀ c ∈ cell, IsPlain c) → CellForm cell cell
  | quoted {written cell : List Char} :
      Doubled written cell → CellForm ('"' :: (written ++ ['"'])) cell

/-- A row is its cells with commas between them. -/
inductive RowForm : List Char → List (List Char) → Prop
  | last {written cell : List Char} : CellForm written cell → RowForm written [cell]
  | comma {written cell rest : List Char} {cells : List (List Char)} :
      CellForm written cell → RowForm rest cells →
        RowForm (written ++ ',' :: rest) (cell :: cells)

/-- Every row has a line end, which the last one may lack if anything is written of it. -/
inductive CsvForm : List Char → List (List (List Char)) → Prop
  | empty : CsvForm [] []
  | unended {written : List Char} {row : List (List Char)} :
      RowForm written row → written ≠ [] → CsvForm written [row]
  | ended {written rest : List Char} {row : List (List Char)} {rows : List (List (List Char))} :
      RowForm written row → CsvForm rest rows →
        CsvForm (written ++ '\r' :: '\n' :: rest) (row :: rows)

/-! ## Writing -/

private theorem doubled_doubleQuotes (cell : List Char) : Doubled (doubleQuotes cell) cell := by
  induction cell with
  | nil => exact .nil
  | cons c rest inductionHypothesis =>
      by_cases quote : c = '"'
      · subst quote
        exact .quote inductionHypothesis
      · have alone : doubleQuotes (c :: rest) = c :: doubleQuotes rest := by
          simp [doubleQuotes, quote]
        rw [alone]
        exact .other quote inductionHypothesis

private theorem cellForm_csvCell (cell : List Char) : CellForm (csvCell cell) cell := by
  unfold csvCell
  split_ifs with needs
  · exact .quoted (doubled_doubleQuotes cell)
  · apply CellForm.bare
    intro c member
    simp only [needsQuotes, Bool.not_eq_true, List.any_eq_false, Bool.or_eq_true, beq_iff_eq,
      not_or] at needs
    obtain ⟨⟨⟨comma, quote⟩, carriage⟩, feed⟩ := needs c member
    exact ⟨comma, quote, carriage, feed⟩

private theorem rowForm_intercalate (cell : List Char) (cells : List (List Char)) :
    RowForm ([','].intercalate ((cell :: cells).map csvCell)) (cell :: cells) := by
  induction cells generalizing cell with
  | nil => simpa using RowForm.last (cellForm_csvCell cell)
  | cons next rest inductionHypothesis =>
      have joined : [','].intercalate ((cell :: next :: rest).map csvCell) =
          csvCell cell ++ ',' :: [','].intercalate ((next :: rest).map csvCell) := by
        simp [List.intercalate]
      rw [joined]
      exact .comma (cellForm_csvCell cell) (inductionHypothesis next)

private theorem csvForm_flatMap {rows : List (List (List Char))}
    (nonempty : ∀ row ∈ rows, row ≠ []) : CsvForm (rows.flatMap csvRow) rows := by
  induction rows with
  | nil => exact .empty
  | cons row rest inductionHypothesis =>
      have below := inductionHypothesis fun other member => nonempty other (.tail row member)
      cases row with
      | nil => exact absurd rfl (nonempty [] List.mem_cons_self)
      | cons cell cells =>
          simpa [csvRow] using CsvForm.ended (rowForm_intercalate cell cells) below

/-! ## One step of the reader -/

section Step

variable {place : CsvPlace} {read : CsvRead} {c : Char} {rest : List Char}

private theorem readCsvFrom_comma (outside : place ≠ .quoted) :
    readCsvFrom place read (',' :: rest) = readCsvFrom .cellStart read.endCell rest := by
  cases place <;> simp_all [readCsvFrom]

private theorem readCsvFrom_start_quote :
    readCsvFrom .cellStart read ('"' :: rest) = readCsvFrom .quoted read rest := by
  simp [readCsvFrom]

private theorem readCsvFrom_doubled_quote :
    readCsvFrom .quoted read ('"' :: '"' :: rest) = readCsvFrom .quoted (read.add '"') rest := by
  simp [readCsvFrom]

private theorem readCsvFrom_closing_quote :
    readCsvFrom .quoted read ('"' :: rest) = readCsvFrom .quoteSeen read rest := by
  simp [readCsvFrom]

private theorem readCsvFrom_quoted (other : c ≠ '"') :
    readCsvFrom .quoted read (c :: rest) = readCsvFrom .quoted (read.add c) rest := by
  -- Both characters of a line end are taken in one step, to the same end.
  by_cases lineEnd : ∃ more, c = '\r' ∧ rest = '\n' :: more
  · obtain ⟨more, rfl, rfl⟩ := lineEnd
    simp [readCsvFrom]
  · rw [readCsvFrom, if_neg other]
    intro more carriage feed
    exact lineEnd ⟨more, carriage, feed⟩

private theorem readCsvFrom_plain (plain : IsPlain c)
    (unquoted : place = .cellStart ∨ place = .bare) :
    readCsvFrom place read (c :: rest) = readCsvFrom .bare (read.add c) rest := by
  obtain ⟨comma, quote, carriage, feed⟩ := plain
  rcases unquoted with rfl | rfl <;> simp [readCsvFrom, comma, quote, carriage, feed]

end Step

/-! ## The reader takes the format -/

def CsvRead.addAll (read : CsvRead) (cell : List Char) : CsvRead :=
  { read with cell := cell.reverse ++ read.cell }

/-- The rows of a reader once the row that it stands in is ended with further cells. -/
def CsvRead.withRow (read : CsvRead) (row : List (List Char)) : CsvRead :=
  { rows := (read.cells.reverse ++ row) :: read.rows }

@[simp]
theorem CsvRead.addAll_nil (read : CsvRead) : read.addAll [] = read := by
  simp [addAll]

@[simp]
theorem CsvRead.addAll_add (read : CsvRead) (c : Char) (cell : List Char) :
    (read.add c).addAll cell = read.addAll (c :: cell) := by
  simp [addAll, add]

private theorem CsvRead.endRow_addAll {read : CsvRead} (fresh : read.cell = []) (cell : List Char) :
    (read.addAll cell).endRow = read.withRow [cell] := by
  simp [addAll, endRow, endCell, withRow, fresh]

private theorem CsvRead.withRow_addAll {read : CsvRead} (fresh : read.cell = []) (cell : List Char)
    (cells : List (List Char)) :
    (read.addAll cell).endCell.withRow cells = read.withRow (cell :: cells) := by
  simp [addAll, endCell, withRow, fresh]

section Taking

variable {written cell : List Char}

private theorem readCsvFrom_bare
    (plain : ∀ c ∈ cell, IsPlain c) (read : CsvRead) (rest : List Char) :
    readCsvFrom .bare read (cell ++ rest) = readCsvFrom .bare (read.addAll cell) rest := by
  induction cell generalizing read with
  | nil => simp
  | cons c cell inductionHypothesis =>
      rw [List.cons_append, readCsvFrom_plain (plain c List.mem_cons_self) (.inr rfl),
        inductionHypothesis fun other member => plain other (.tail c member), CsvRead.addAll_add]

private theorem readCsvFrom_doubled
    (doubled : Doubled written cell) (read : CsvRead) (rest : List Char) :
    readCsvFrom .quoted read (written ++ rest) = readCsvFrom .quoted (read.addAll cell) rest := by
  induction doubled generalizing read with
  | nil => simp
  | quote _ inductionHypothesis =>
      rw [List.cons_append, List.cons_append, readCsvFrom_doubled_quote, inductionHypothesis,
        CsvRead.addAll_add]
  | other other _ inductionHypothesis =>
      rw [List.cons_append, readCsvFrom_quoted other, inductionHypothesis, CsvRead.addAll_add]

/-- Behind a cell the reader stands outside quotes, and still before the cell only if nothing is
written of it. -/
theorem exists_place_of_cellForm (form : CellForm written cell) :
    ∃ place, place ≠ .quoted ∧ (place = .cellStart → written = []) ∧
      ∀ read rest, readCsvFrom .cellStart read (written ++ rest) =
        readCsvFrom place (read.addAll cell) rest := by
  cases form with
  | bare plain =>
      cases written with
      | nil => exact ⟨.cellStart, by decide, fun _ => rfl, by simp⟩
      | cons c rest =>
          refine ⟨.bare, by decide, nofun, ?_⟩
          intro read after
          rw [List.cons_append, readCsvFrom_plain (plain c List.mem_cons_self) (.inl rfl),
            readCsvFrom_bare fun other member => plain other (.tail c member),
            CsvRead.addAll_add]
  | quoted doubled =>
      refine ⟨.quoteSeen, by decide, nofun, ?_⟩
      intro read after
      rw [List.cons_append, List.append_assoc, readCsvFrom_start_quote,
        readCsvFrom_doubled doubled, List.singleton_append, readCsvFrom_closing_quote]

/-- A row is taken up to its line end, or up to the end of the text if anything stands in it. -/
theorem readCsvFrom_row {row : List (List Char)} (form : RowForm written row) {read : CsvRead}
    (fresh : read.cell = []) :
    (∀ rest, readCsvFrom .cellStart read (written ++ '\r' :: '\n' :: rest) =
      readCsvFrom .cellStart (read.withRow row) rest) ∧
    (written ≠ [] ∨ read.cells ≠ [] →
      readCsvFrom .cellStart read written = some (read.withRow row).rows.reverse) := by
  induction form generalizing read with
  | @last written cell form =>
      obtain ⟨place, outside, start, taken⟩ := exists_place_of_cellForm form
      constructor
      · intro rest
        rw [taken, readCsvFrom_lineEnd outside, CsvRead.endRow_addAll fresh]
      · intro solid
        have begun : ¬(place = .cellStart ∧ (read.addAll cell).cells = []) := by
          rintro ⟨before, none⟩
          exact solid.elim (· (start before)) (· none)
        have ended := taken read []
        rw [List.append_nil, readCsvFrom, if_neg outside, if_neg begun,
          CsvRead.endRow_addAll fresh] at ended
        exact ended
  | @comma written cell following cells form _ inductionHypothesis =>
      obtain ⟨place, outside, _, taken⟩ := exists_place_of_cellForm form
      have below := @inductionHypothesis (read.addAll cell).endCell rfl
      rw [CsvRead.withRow_addAll fresh] at below
      constructor
      · intro rest
        rw [List.append_assoc, taken, List.cons_append, readCsvFrom_comma outside]
        exact below.1 rest
      · intro _
        rw [taken, readCsvFrom_comma outside]
        exact below.2 (.inr (List.cons_ne_nil _ _))

private theorem readCsvFrom_csvForm {text : List Char} {rows : List (List (List Char))}
    (form : CsvForm text rows) (done : List (List (List Char))) :
    readCsvFrom .cellStart { rows := done } text = some (done.reverse ++ rows) := by
  induction form generalizing done with
  | empty => simp [readCsvFrom]
  | unended form solid =>
      rw [(readCsvFrom_row form rfl).2 (.inl solid)]
      simp [CsvRead.withRow]
  | ended form _ inductionHypothesis =>
      rw [(readCsvFrom_row form rfl).1, CsvRead.withRow, inductionHypothesis]
      simp

end Taking

/-! ## The reader takes nothing else -/

/-- What may be left of a cell at a place of the reader, and the characters that this adds. -/
inductive CellRest : CsvPlace → List Char → List Char → Prop
  | whole {written cell : List Char} : CellForm written cell → CellRest .cellStart written cell
  | bare {cell : List Char} : (∀ c ∈ cell, IsPlain c) → CellRest .bare cell cell
  | quoted {written cell : List Char} :
      Doubled written cell → CellRest .quoted (written ++ ['"']) cell
  | closed : CellRest .quoteSeen [] []
  | reopened {written cell : List Char} :
      Doubled written cell → CellRest .quoteSeen ('"' :: (written ++ ['"'])) ('"' :: cell)

/-- What may follow a cell: further cells of its row, and further rows. -/
inductive RowRest : List Char → List (List Char) → List (List (List Char)) → Prop
  | finished : RowRest [] [] []
  | ended {rest : List Char} {rows : List (List (List Char))} :
      CsvForm rest rows → RowRest ('\r' :: '\n' :: rest) [] rows
  | comma {written cell rest : List Char} {cells : List (List Char)}
      {rows : List (List (List Char))} :
      CellForm written cell → RowRest rest cells rows →
        RowRest (',' :: (written ++ rest)) (cell :: cells) rows

/-- The table that a reader makes of a text, from its place on. -/
inductive Continues (place : CsvPlace) (read : CsvRead) :
    List Char → List (List (List Char)) → Prop
  | finished : place = .cellStart → read.cells = [] → Continues place read [] read.rows.reverse
  | cell {written added rest : List Char} {cells : List (List Char)}
      {rows : List (List (List Char))} :
      CellRest place written added → RowRest rest cells rows →
        (place = .cellStart → read.cells = [] → written ++ rest ≠ []) →
        Continues place read (written ++ rest)
          (read.rows.reverse ++
            (read.cells.reverse ++ (read.cell.reverse ++ added) :: cells) :: rows)

private theorem cellRest_nil {place : CsvPlace} (outside : place ≠ .quoted) :
    CellRest place [] [] := by
  cases place with
  | cellStart => exact .whole (.bare (by simp))
  | bare => exact .bare (by simp)
  | quoted => exact absurd rfl outside
  | quoteSeen => exact .closed

namespace CellRest

variable {place : CsvPlace} {c : Char} {written added : List Char}

private theorem open_quote (rest : CellRest .quoted written added) :
    CellRest .cellStart ('"' :: written) added := by
  cases rest with
  | quoted doubled => exact .whole (.quoted doubled)

private theorem in_quotes (other : c ≠ '"') (rest : CellRest .quoted written added) :
    CellRest .quoted (c :: written) (c :: added) := by
  cases rest with
  | quoted doubled => exact .quoted (.other other doubled)

private theorem see_quote (rest : CellRest .quoteSeen written added) :
    CellRest .quoted ('"' :: written) added := by
  cases rest with
  | closed => exact .quoted .nil
  | reopened doubled => exact .quoted (.quote doubled)

private theorem reopen_quote (rest : CellRest .quoted written added) :
    CellRest .quoteSeen ('"' :: written) ('"' :: added) := by
  cases rest with
  | quoted doubled => exact .reopened doubled

private theorem in_bare (plain : IsPlain c) (unquoted : place = .cellStart ∨ place = .bare)
    (rest : CellRest .bare written added) : CellRest place (c :: written) (c :: added) := by
  cases rest with
  | bare others =>
      have all : ∀ other ∈ c :: written, IsPlain other := List.forall_mem_cons.mpr ⟨plain, others⟩
      rcases unquoted with rfl | rfl
      · exact .whole (.bare all)
      · exact .bare all

end CellRest

/-- A cell and what follows it make up a row and what follows that. -/
theorem exists_rowForm_of_rowRest {written cell rest : List Char} {cells : List (List Char)}
    {rows : List (List (List Char))} (form : CellForm written cell)
    (following : RowRest rest cells rows) :
    ∃ line after, written ++ rest = line ++ after ∧ RowForm line (cell :: cells) ∧
      ((after = [] ∧ rows = []) ∨ ∃ more, after = '\r' :: '\n' :: more ∧ CsvForm more rows) := by
  induction following generalizing written cell with
  | finished => exact ⟨written, [], rfl, .last form, .inl ⟨rfl, rfl⟩⟩
  | ended below => exact ⟨written, _, rfl, .last form, .inr ⟨_, rfl, below⟩⟩
  | comma next _ inductionHypothesis =>
      obtain ⟨line, after, equal, row, ending⟩ := inductionHypothesis next
      refine ⟨written ++ ',' :: line, after, ?_, .comma form row, ending⟩
      rw [equal, List.append_assoc, List.cons_append]

private theorem csvForm_of_rowRest {written cell rest : List Char} {cells : List (List Char)}
    {rows : List (List (List Char))} (form : CellForm written cell)
    (following : RowRest rest cells rows) (solid : written ++ rest ≠ []) :
    CsvForm (written ++ rest) ((cell :: cells) :: rows) := by
  obtain ⟨line, after, equal, row, ⟨rfl, rfl⟩ | ⟨more, rfl, below⟩⟩ :=
    exists_rowForm_of_rowRest form following
  · rw [List.append_nil] at equal
    rw [equal] at solid ⊢
    exact .unended row solid
  · rw [equal]
    exact .ended row below

namespace Continues

variable {place next : CsvPlace} {read : CsvRead} {text : List Char}
  {table : List (List (List Char))}

private theorem of_nil (outside : place ≠ .quoted)
    (begun : ¬(place = .cellStart ∧ read.cells = [])) :
    Continues place read [] read.endRow.rows.reverse := by
  have ended : Continues place read ([] ++ []) _ := .cell (cellRest_nil outside) .finished
    fun before none => absurd ⟨before, none⟩ begun
  simpa [CsvRead.endRow, CsvRead.endCell] using ended

/-- What stands in front of a text goes to the cell that the reader is in. -/
theorem within (front cell : List Char) (continues : Continues next (read.addAll cell) text table)
    (inside : next ≠ .cellStart) (solid : front ≠ [])
    (joins : ∀ written added, CellRest next written added →
      CellRest place (front ++ written) (cell ++ added)) :
    Continues place read (front ++ text) table := by
  cases continues with
  | finished before _ => exact absurd before inside
  | cell rest following _ =>
      have joined (begun) : Continues place read _ _ := .cell (joins _ _ rest) following begun
      simpa [CsvRead.addAll, solid] using joined

private theorem of_comma (outside : place ≠ .quoted)
    (continues : Continues .cellStart read.endCell text table) :
    Continues place read (',' :: text) table := by
  cases continues with
  | finished _ none => exact absurd none (List.cons_ne_nil _ _)
  | cell rest following _ =>
      cases rest with
      | whole form =>
          have ended : Continues place read _ _ :=
            .cell (cellRest_nil outside) (.comma form following) fun _ _ => List.cons_ne_nil _ _
          simpa [CsvRead.endCell] using ended

private theorem of_lineEnd (outside : place ≠ .quoted)
    (continues : Continues .cellStart read.endRow text table) :
    Continues place read ('\r' :: '\n' :: text) table := by
  have below : ∃ rows, CsvForm text rows ∧ table = read.endRow.rows.reverse ++ rows := by
    cases continues with
    | finished _ _ => exact ⟨[], .empty, (List.append_nil _).symm⟩
    | cell rest following solid =>
        cases rest with
        | whole form => exact ⟨_, csvForm_of_rowRest form following (solid rfl rfl), by rfl⟩
  obtain ⟨rows, form, rfl⟩ := below
  have ended : Continues place read _ _ :=
    .cell (cellRest_nil outside) (.ended form) fun _ _ => List.cons_ne_nil _ _
  simpa [CsvRead.endRow, CsvRead.endCell] using ended

end Continues

private theorem continues_of_readCsvFrom {place : CsvPlace} {read : CsvRead} {text : List Char}
    {table : List (List (List Char))} (taken : readCsvFrom place read text = some table) :
    Continues place read text table := by
  -- One case for each way in which the reader goes on; the place says what is left of the cell.
  fun_induction readCsvFrom place read text with
  | case1 => cases taken
  | case2 place read _ fresh =>
      cases taken
      exact .finished fresh.1 fresh.2
  | case3 place read outside begun =>
      cases taken
      exact .of_nil outside begun
  | case4 read rest inductionHypothesis =>
      exact (inductionHypothesis taken).within ['\r', '\n'] ['\r', '\n']
        (by decide) (by decide) fun _ _ rest => (rest.in_quotes (by decide)).in_quotes (by decide)
  | case5 place read rest outside inductionHypothesis =>
      exact .of_lineEnd outside (inductionHypothesis taken)
  | case6 read rest _ inductionHypothesis =>
      exact (inductionHypothesis taken).within ['"'] []
        (by decide) (by decide) fun _ _ rest => rest.see_quote
  | case7 read c rest _ other inductionHypothesis =>
      exact (inductionHypothesis taken).within [c] [c]
        (by decide) (by simp) fun _ _ rest => rest.in_quotes other
  | case8 read rest _ inductionHypothesis =>
      exact (inductionHypothesis taken).within ['"'] ['"']
        (by decide) (by decide) fun _ _ rest => rest.reopen_quote
  | case9 read rest _ _ inductionHypothesis =>
      exact .of_comma (by decide) (inductionHypothesis taken)
  | case10 => cases taken
  | case11 place read rest unquoted _ _ inductionHypothesis =>
      exact .of_comma unquoted (inductionHypothesis taken)
  | case12 read rest _ _ _ _ inductionHypothesis =>
      rw [if_pos rfl] at taken
      exact (inductionHypothesis taken).within ['"'] []
        (by decide) (by decide) fun _ _ rest => rest.open_quote
  | case13 place read rest begun =>
      rw [if_neg begun] at taken
      cases taken
  | case14 => cases taken
  | case15 place read c rest _ comma quote lineEnd unquoted unseen inductionHypothesis =>
      have plain : IsPlain c := ⟨comma, quote, not_or.mp lineEnd⟩
      have outside : place = .cellStart ∨ place = .bare := by
        cases place <;> simp_all
      exact (inductionHypothesis taken).within [c] [c]
        (by decide) (by simp) fun _ _ rest => rest.in_bare plain outside

/-! ## Tables -/

/-- The reader takes just the texts of the format. -/
theorem readCsv?_eq_some_iff {text : String} {rows : List (List String)} :
    readCsv? text = some rows ↔ CsvForm text.toList (rows.map (·.map String.toList)) := by
  have characters (table : List (List (List Char))) :
      (table.map (·.map String.ofList)).map (·.map String.toList) = table := by
    simp [Function.comp_def]
  have texts : (rows.map (·.map String.toList)).map (·.map String.ofList) = rows := by
    simp [Function.comp_def]
  constructor
  · intro taken
    obtain ⟨table, read, rfl⟩ := Option.map_eq_some_iff.mp taken
    rw [characters]
    generalize text.toList = text at read
    cases continues_of_readCsvFrom read with
    | finished _ _ => exact .empty
    | cell rest following solid =>
        cases rest with
        | whole form => exact csvForm_of_rowRest form following (solid rfl rfl)
  · intro form
    rw [readCsv?, readCsvFrom_csvForm form, Option.map_some, List.reverse_nil, List.nil_append,
      texts]

example : readCsv? "a,\"b\"\"\r\n\"\r\n,\r\n" = some [["a", "b\"\r\n"], ["", ""]] := by
  decide

example : readCsv? "a\"b" = none := by
  decide

private theorem csvForm_csv {rows : List (List String)} (nonempty : ∀ row ∈ rows, row ≠ []) :
    CsvForm (csv rows).toList (rows.map (·.map String.toList)) := by
  have written : (csv rows).toList = (rows.map (·.map String.toList)).flatMap csvRow := by
    simp [csv, List.flatMap_map]
  rw [written]
  apply csvForm_flatMap
  intro row member
  obtain ⟨cells, listed, rfl⟩ := List.mem_map.mp member
  simpa using nonempty cells listed

private theorem csvForm_unique {text : String} {rows others : List (List String)}
    (form : CsvForm text.toList (rows.map (·.map String.toList)))
    (other : CsvForm text.toList (others.map (·.map String.toList))) : others = rows := by
  rw [← readCsv?_eq_some_iff] at form other
  exact Option.some.inj (other.symm.trans form)

end Text

namespace SweepRow

theorem length_cells (row : SweepRow Float) : row.cells.length = 4 :=
  rfl

private theorem nonempty_of_mem_table (rows : List (SweepRow Float)) :
    ∀ row ∈ table rows, row ≠ [] := by
  intro row member
  rcases List.mem_cons.mp member with rfl | listed
  · decide
  · obtain ⟨source, _, rfl⟩ := List.mem_map.mp listed
    exact List.cons_ne_nil _ _

/-- The text of a sweep is read back as its table, and is of the format for no other one: the
header, then four cells for each row in order, the mode, the decibels to two places and the two
probabilities to six digits, the last cell empty where there is no success probability. -/
theorem readCsv?_csv (rows : List (SweepRow Float)) :
    ∃ written : List (List String),
      written = ["mode", "snr_db", "ber", "success_probability"] :: rows.map (fun row =>
        [ row.mode, Decimal.fixed 2 row.decibels, Decimal.general 6 row.errorRate,
          match row.success with
          | some success => Decimal.general 6 success
          | none => "" ]) ∧
      table rows = written ∧
      Text.readCsv? (csv rows) = some written ∧
      (∀ cells ∈ written, cells.length = 4) ∧
      ∀ others : List (List String),
        Text.CsvForm (csv rows).toList (others.map (·.map String.toList)) ↔ others = written := by
  have form := Text.csvForm_csv (nonempty_of_mem_table rows)
  refine ⟨table rows, ?_, rfl, Text.readCsv?_eq_some_iff.mpr form, ?_, ?_⟩
  · rw [table, header, List.cons_inj_right]
    refine List.map_congr_left fun row _ => ?_
    rw [cells]
    cases row.success <;> rfl
  · intro cells member
    rcases List.mem_cons.mp member with rfl | listed
    · rfl
    · obtain ⟨row, _, rfl⟩ := List.mem_map.mp listed
      exact row.length_cells
  · intro others
    constructor
    · exact Text.csvForm_unique form
    · rintro rfl
      exact form

end SweepRow

end WifiLink
