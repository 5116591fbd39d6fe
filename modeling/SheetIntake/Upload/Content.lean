import SheetIntake.Delimited.Decode
import SheetIntake.Upload.Format
import SheetIntake.Workbook.Basic

/-! # Uploaded files

The content of a file is a workbook, or bytes that are none.  What is not a
workbook cannot be opened as one; among such files the container of a protected
workbook is told apart by its signature and by the name of a part in it. -/

namespace SheetIntake

/-- The content of an uploaded file. -/
inductive Content where
  | bytes (bs : List UInt8)
  | workbook (w : Workbook)
deriving DecidableEq

/-- What reading a file gives. -/
inductive Decoded where
  | table (sheetName : Option String) (t : Table)
  /-- One of several sheets has to be chosen. -/
  | choice (names : List String)
deriving DecidableEq

namespace Content

/-- The bytes with which a compound file starts. -/
def compoundSignature : List UInt8 := [0xD0, 0xCF, 0x11, 0xE0, 0xA1, 0xB1, 0x1A, 0xE1]

/-- ASCII characters in two bytes each, the low one first. -/
def wideBytes (cs : List Char) : List UInt8 := cs.flatMap fun c => [UInt8.ofNat c.toNat, 0]

/-- A compound file with the part that holds a protected workbook. -/
def isProtectedPackage (bs : List UInt8) : Bool :=
  compoundSignature.isPrefixOf bs &&
    Text.occursIn (wideBytes Workbook.protectedPart.toList) bs

/-- The content as text; a workbook is none. -/
def textBytes : Content → List UInt8
  | bytes bs => bs
  | workbook _ => []

/-- A file of no bytes. -/
def isEmpty : Content → Bool
  | bytes bs => bs.isEmpty
  | workbook _ => false

/-- The workbook in a file. -/
def openWorkbook : Content → Except ImportError Workbook
  | bytes bs =>
    if isProtectedPackage bs then .error .passwordProtected
    else .error (.unreadable "Cannot detect file format")
  | workbook w => if w.looksProtected then .error .passwordProtected else .ok w

/-- The names of the sheets of a file. -/
def sheetNames (c : Content) : Except ImportError (List String) := c.openWorkbook.map Workbook.names

/-- The table on a sheet chosen by its number. -/
def decodeSheet (c : Content) (number : Nat) : Except ImportError Table := do
  (← c.openWorkbook).decodeSheet number

/-- Reads a workbook: at once if it has one sheet, not at all if it has more. -/
def decodeWorkbook (c : Content) : Except ImportError Decoded := do
  let w ← c.openWorkbook
  match w.names with
  | [] => .error .noRows
  | [name] => return .table (some name) (← w.readNamed name)
  | names => return .choice names

/-- Reads a file in a given format.  A sheet without a name counts as unnamed. -/
def read (c : Content) : FileFormat → Except ImportError Decoded
  | .delimited tabSeparated => do
    let separator := if tabSeparated then some 0x09 else none
    return .table none (← Delimited.decode c.textBytes separator)
  | .workbook => do
    match ← c.decodeWorkbook with
    | .table name t => return .table (name.filter fun n => !n.isEmpty) t
    | .choice names => return .choice names

end Content

end SheetIntake
