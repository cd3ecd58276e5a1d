/-!
Tables as comma-separated values. A cell stands in double quotes only when it holds a comma, a
double quote or a line end; a double quote inside is written twice. Every row ends with a
carriage return and a line feed. `csv` writes a table and `readCsv?` reads one.
-/

namespace WifiLink.Text

def needsQuotes (cell : List Char) : Bool :=
  cell.any fun c => c == ',' || c == '"' || c == '\r' || c == '\n'

/-- The inside of a quoted cell. -/
def doubleQuotes (cell : List Char) : List Char :=
  cell.flatMap fun c => if c = '"' then ['"', '"'] else [c]

def csvCell (cell : List Char) : List Char :=
  if needsQuotes cell then '"' :: (doubleQuotes cell ++ ['"']) else cell

def csvRow (cells : List (List Char)) : List Char :=
  [','].intercalate (cells.map csvCell) ++ ['\r', '\n']

def csv (rows : List (List String)) : String :=
  String.ofList (rows.flatMap fun cells => csvRow (cells.map String.toList))

/-- Where a reader stands: before a cell, in a bare cell, in a quoted one, or behind a quote in a
quoted cell, which either ends the cell or is the first of two. -/
inductive CsvPlace where
  | cellStart
  | bare
  | quoted
  | quoteSeen
deriving DecidableEq, Repr

/-- The rows read so far, the cells of the row being read, and the characters of the cell being
read, each last one first. -/
structure CsvRead where
  rows : List (List (List Char)) := []
  cells : List (List Char) := []
  cell : List Char := []

namespace CsvRead

/-- Takes a character into the cell. -/
def add (read : CsvRead) (c : Char) : CsvRead := { read with cell := c :: read.cell }

def endCell (read : CsvRead) : CsvRead :=
  { read with cells := read.cell.reverse :: read.cells, cell := [] }

def endRow (read : CsvRead) : CsvRead :=
  { rows := read.endCell.cells.reverse :: read.rows }

end CsvRead

/-- Reads on from a place. Line ends and quotes have no place in a bare cell, and behind a quote
in a quoted cell stands another one, a comma, a line end or nothing. -/
def readCsvFrom (place : CsvPlace) (read : CsvRead) : List Char → Option (List (List (List Char)))
  | [] =>
      if place = .quoted then none
      else if place = .cellStart ∧ read.cells = [] then some read.rows.reverse
      else some read.endRow.rows.reverse
  | '\r' :: '\n' :: rest =>
      if place = .quoted then readCsvFrom .quoted ((read.add '\r').add '\n') rest
      else readCsvFrom .cellStart read.endRow rest
  | c :: rest =>
      match place with
      | .quoted =>
          if c = '"' then readCsvFrom .quoteSeen read rest
          else readCsvFrom .quoted (read.add c) rest
      | .quoteSeen =>
          if c = '"' then readCsvFrom .quoted (read.add c) rest
          else if c = ',' then readCsvFrom .cellStart read.endCell rest
          else none
      | _ =>
          if c = ',' then readCsvFrom .cellStart read.endCell rest
          else if c = '"' then
            if place = .cellStart then readCsvFrom .quoted read rest else none
          else if c = '\r' ∨ c = '\n' then none
          else readCsvFrom .bare (read.add c) rest

theorem readCsvFrom_lineEnd {place : CsvPlace} (outside : place ≠ .quoted) (read : CsvRead)
    (rest : List Char) :
    readCsvFrom place read ('\r' :: '\n' :: rest) = readCsvFrom .cellStart read.endRow rest := by
  simp [readCsvFrom, outside]

/-- The cells of a table written as comma-separated values, row by row. -/
def readCsv? (text : String) : Option (List (List String)) :=
  (readCsvFrom .cellStart {} text.toList).map fun rows => rows.map (·.map String.ofList)

end WifiLink.Text
