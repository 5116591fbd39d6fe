import SheetIntake.ImportError
import SheetIntake.Table.Basic
import SheetIntake.Text.Occurrence
import SheetIntake.Workbook.Stored

/-! # Workbooks

A workbook is a list of named sheets.  A sheet is read as the rectangle around
its cells, so that empty rows and columns before them do not count.  A workbook
with more than one sheet is never read without a choice: sheets are chosen by
number and then read by name, the first of several with the same name. -/

namespace SheetIntake

/-- A sheet as it is stored. -/
structure Sheet where
  name : String
  rows : List (List StoredCell)
deriving DecidableEq

structure Workbook where
  format : WorkbookFormat
  /-- Whether dates are counted from 1904. -/
  from1904 : Bool
  sheets : List Sheet
deriving DecidableEq

namespace Sheet

/-- A sheet of nothing but texts. -/
def ofTexts (name : String) (records : List (List String)) : Sheet :=
  { name, rows := records.map fun cells => cells.map .text }

/-! ## The rectangle of a sheet -/

def isAbsent (c : Cell) : Bool := c == .absent

/-- Rows without those at either end in which there is no cell. -/
def occupiedRows (rows : List (List Cell)) : List (List Cell) :=
  let empty (row : List Cell) : Bool := row.all isAbsent
  ((rows.dropWhile empty).reverse.dropWhile empty).reverse

/-- The number of places before the first cell of a row; absent when there is no cell. -/
def leading? (row : List Cell) : Option Nat := row.findIdx? fun c => !isAbsent c

/-- The number of places up to the last cell of a row. -/
def reach (row : List Cell) : Nat := (row.reverse.dropWhile isAbsent).length

/-- The smallest rectangle that holds all cells, row by row. -/
def rectangle (rows : List (List Cell)) : List (List Cell) :=
  let rows := occupiedRows rows
  let left := ((rows.filterMap leading?).min?).getD 0
  let right := ((rows.map reach).max?).getD 0
  rows.map fun row =>
    ((row ++ List.replicate (right - row.length) .absent).take right).drop left

/-- The cells of a sheet; else why the first bad one cannot be read. -/
def cells (s : Sheet) (format : WorkbookFormat) (from1904 : Bool) :
    Except String (List (List Cell)) :=
  s.rows.mapM fun row => row.mapM (StoredCell.read format from1904)

/-- The texts of a rectangle of cells. -/
def records (rows : List (List Cell)) : List (List String) :=
  (rectangle rows).map fun row => row.map Cell.toText

end Sheet

namespace Workbook

/-- The names of the sheets, in order. -/
def names (w : Workbook) : List String := w.sheets.map Sheet.name

/-! ## Protection -/

/-- The name of the part that holds a protected workbook. -/
def protectedPart : String := "EncryptedPackage"

/-- Whether a cell holds the name of the protected part. -/
def namesProtectedPart : StoredCell → Bool
  | .text s => Text.contains s protectedPart
  | _ => false

/-- The oldest format stores its texts like the name of the protected part, so one that has
it among them is taken for protected. -/
def looksProtected (w : Workbook) : Bool :=
  w.format = .xls &&
    w.sheets.any fun s =>
      Text.contains s.name protectedPart || s.rows.any fun row => row.any namesProtectedPart

/-! ## Reading -/

/-- The table on a sheet. -/
def readSheet (w : Workbook) (s : Sheet) : Except ImportError Table :=
  match s.cells w.format w.from1904 with
  | .error detail => .error (.unreadable detail)
  | .ok rows =>
    if rows.any fun row => row.any Cell.overflows then .error (.overflow Cell.overflowDetail)
    else match Table.ofRecords? (Sheet.records rows) with
    | some table => .ok table
    | none => .error (.emptySheet s.name)

/-- The table on the first sheet with a given name. -/
def readNamed (w : Workbook) (name : String) : Except ImportError Table :=
  match w.sheets.find? fun s => s.name == name with
  | some s => w.readSheet s
  | none => .error (.unreadable s!"{w.format.label} error: Worksheet '{name}' not found")

/-- The table on a sheet chosen by its number, which counts from 1. -/
def decodeSheet (w : Workbook) (number : Nat) : Except ImportError Table :=
  match number with
  | 0 => .error (.sheetOutOfRange 0 w.names.length)
  | n + 1 =>
    match w.names[n]? with
    | some name => w.readNamed name
    | none => .error (.sheetOutOfRange number w.names.length)

end Workbook

end SheetIntake
