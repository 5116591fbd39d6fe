import SheetIntake.Calendar.Date
import SheetIntake.Number.Layout

/-! # Cells of a worksheet

A cell holds a text, a truth value, a number, a moment or an error.  Tables are
made of texts, so every cell has one: a moment is written in universal time, a
whole number without a point, and an error as nothing. -/

namespace SheetIntake

/-- What a cell holds. -/
inductive Cell where
  /-- There is no cell at this place. -/
  | absent
  | text (s : String)
  | bool (b : Bool)
  | int (n : Int)
  | real (x : Binary64)
  /-- A number of days since the epoch of the workbook, which is 1904 or 1900. -/
  | moment (from1904 : Bool) (serial : Binary64)
  | error
deriving DecidableEq, Inhabited

namespace Cell

/-- Numbers in cells are positional throughout and show a point only for a fraction. -/
def layout : Layout := { positional := none, keepsPoint := false, tie := .up }

/-- Whole numbers below this bound are written as integers. -/
def wholeBound : Nat := Nat.pow 10 15

def realText (x : Binary64) : String :=
  match x.toInt? with
  | some n => if n.natAbs < wholeBound then toString n else layout.write x
  | none => layout.write x

/-- The days from the epoch of 1900 to that of 1904. -/
def days1904 : Nat := 1462

/-- Before this serial number the count of days is one behind: the epoch of 1900 counts a
29 February that the year did not have. -/
def leapBug : Nat := 60

/-- The milliseconds that a serial number counts. -/
def millis (from1904 : Bool) (serial : Binary64) : Int :=
  let days := if from1904 then serial + Binary64.ofInt days1904 else serial
  let days := if days.lt leapBug then days + Binary64.ofInt 1 else days
  (days * Binary64.ofInt Moment.dayLength).roundToInt64

/-- The moment of a serial number. -/
def moment? (from1904 : Bool) (serial : Binary64) : Option Moment :=
  Moment.afterWorkbookEpoch? (millis from1904 serial)

/-- Whether the serial number of a cell counts more milliseconds backwards than a span of
time can have.  Such a cell has no text. -/
def overflows : Cell → Bool
  | moment from1904 serial => millis from1904 serial < -Moment.longestSpan
  | _ => false

/-- What is said about a span of time that is too long. -/
def overflowDetail : String := "TimeDelta::milliseconds out of bounds"

/-- The text of a cell that does not overflow. -/
def toText : Cell → String
  | absent | error => ""
  | text s => s
  | bool b => if b then "true" else "false"
  | int n => toString n
  | real x => realText x
  | moment from1904 serial =>
    match moment? from1904 serial with
    | some m => m.timestamp
    | none => layout.write serial

end Cell

end SheetIntake
