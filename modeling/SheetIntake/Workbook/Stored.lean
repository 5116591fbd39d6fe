import SheetIntake.Number.Numeral
import SheetIntake.Workbook.Cell

/-! # Cells as workbooks store them

The formats of workbooks store numbers, errors and the results of formulas as
texts.  Reading such a cell can fail, and then the sheet it stands on cannot be
read either. -/

namespace SheetIntake

/-- A format of workbooks. -/
inductive WorkbookFormat where
  | xlsx
  | ods
  | xls
deriving DecidableEq

namespace WorkbookFormat

/-- How messages call the format. -/
def label : WorkbookFormat → String
  | xlsx => "Xlsx"
  | ods => "Ods"
  | xls => "Xls"

end WorkbookFormat

/-- A cell as it is stored. -/
inductive StoredCell where
  | nothing
  | text (s : String)
  | bool (b : Bool)
  | number (t : String)
  | whole (n : Int)
  /-- A number in a date or duration format. -/
  | serial (t : String)
  /-- A date or a duration spelled out. -/
  | spelled (t : String)
  | error (t : String)
  /-- The result of a formula. -/
  | formula (t : String)
  /-- A cell of a type that the format does not know. -/
  | foreign (type : String)
deriving DecidableEq

namespace StoredCell

/-- The error values a cell may hold. -/
def errorValues : List String :=
  ["#DIV/0!", "#N/A", "#NAME?", "#NULL!", "#NUM!", "#REF!", "#VALUE!", "#DATA!"]

/-- The cell a stored one stands for; else why it cannot be read. -/
def read (format : WorkbookFormat) (from1904 : Bool) : StoredCell → Except String Cell
  | nothing => .ok .absent
  | text s => .ok (if format = .xls ∧ s.isEmpty then .absent else .text s)
  | bool b => .ok (.bool b)
  | number t =>
    if format = .xlsx ∧ t.isEmpty then .ok .absent
    else match Binary64.parse? t with
      | some x => .ok (.real x)
      | none => .error s!"{format.label} error: Parse float error: invalid float literal"
  | whole n => .ok (.int n)
  | serial t => .ok (((Binary64.parse? t).map (Cell.moment from1904)).getD (.text t))
  | spelled t => .ok (.text t)
  | error t =>
    if format = .xlsx ∧ !errorValues.contains t then
      .error s!"{format.label} error: Unsupported cell error value '{t}'"
    else .ok .error
  | formula t => .ok (((Binary64.parse? t).map Cell.real).getD (.text t))
  | foreign type => .error s!"{format.label} error: Unknown cell 't' attribute: \"{type}\""

end StoredCell

end SheetIntake
