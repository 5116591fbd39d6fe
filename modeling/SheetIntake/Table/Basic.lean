import SheetIntake.Table.Naming
import SheetIntake.Table.TextMap

/-! # Tables

What every kind of file is reduced to: column names, and rows that map each name
to the text of a cell.  The first record with something in it gives the names,
and the later ones with something in them give the rows.  Whether a record is
blank is decided on all its cells, before it is cut or filled up to the width of
the table. -/

namespace SheetIntake

/-- A row of a table, keyed by column name. -/
abbrev Row := TextMap

structure Table where
  headers : List String
  rows : List Row
deriving DecidableEq, Inhabited

/-- Nothing but blank cells. -/
def isBlankRecord (cells : List String) : Bool := cells.all Text.isBlank

/-- Cells cut or filled up with empty ones to a given width. -/
def fitted (width : Nat) (cells : List String) : List String :=
  cells.take width ++ List.replicate (width - cells.length) ""

/-- A record as a row under the given headers. -/
def Row.ofCells (headers cells : List String) : Row :=
  TextMap.ofPairs (headers.zip (fitted headers.length cells))

/-- The cells of a row in the order of the given headers. -/
def Row.cells (row : Row) (headers : List String) : List String := headers.map row.getText

namespace Table

def rowsOf (headers : List String) (records : List (List String)) : List Row :=
  (records.filter fun r => !isBlankRecord r).map (Row.ofCells headers)

/-- The table of the records of a file, when it has a header and a row at least. -/
def ofRecords? (records : List (List String)) : Option Table :=
  match records.dropWhile isBlankRecord with
  | [] => none
  | first :: rest =>
    let headers := Naming.name first
    match rowsOf headers rest with
    | [] => none
    | rows => some { headers, rows }

/-- The first rows. -/
def preview (t : Table) (limit : Nat) : List Row := t.rows.take limit

/-- The rows as lists of cells in header order. -/
def cellRows (t : Table) : List (List String) := t.rows.map fun r => Row.cells r t.headers

end Table

end SheetIntake
