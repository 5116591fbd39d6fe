import SheetIntake.Delimited.Reader
import SheetIntake.Delimited.Sniff
import SheetIntake.ImportError
import SheetIntake.Table.Basic
import SheetIntake.Text.Utf8

/-! # Decoding delimited files

The bytes of a file are UTF-8, with or without a byte order mark, or else Latin-1.
Its records are read as bytes.  A separator beyond ASCII can cut a character in
two, and a record with such a cell cannot be read. -/

namespace SheetIntake.Delimited

/-- The text of a file: UTF-8 if it is well-formed, else Latin-1. -/
def decodeText (bytes : List UInt8) : List Char :=
  let body := Text.Utf8.stripMark bytes
  match Text.Utf8.decode body with
  | .ok cs => cs
  | .error _ => body.map fun b => Char.ofNat b.toNat

/-- The marks of delimited bytes. -/
def byteMarks (separator : UInt8) : Marks UInt8 where
  isSeparator := (· == separator)
  isQuote := (· == 0x22)
  isBreak := fun b => b == 0x0A || b == 0x0D

/-- The records of bytes, behind a byte order mark if there is one. -/
def byteRecords (separator : UInt8) (bytes : List UInt8) : List (Record UInt8) :=
  let body := Text.Utf8.stripMark bytes
  records (byteMarks separator) (bytes.length - body.length) body

/-- Where a record has a cell that is not well-formed. -/
structure BadCell where
  record : Nat
  line : Nat
  cell : Nat
  offset : Nat
  /-- The offset in the cell. -/
  inside : Nat

def BadCell.message (b : BadCell) : String :=
  s!"CSV parse error: record {b.record} (line {b.line}, field: {b.cell}, byte: {b.offset}): " ++
    s!"invalid utf-8: invalid UTF-8 in field {b.cell} near byte index {b.inside}"

/-- The cells of a record as text; else the first bad cell and the offset in it. -/
def cellTexts (position : Nat) : List (List UInt8) → Except (Nat × Nat) (List String)
  | [] => .ok []
  | c :: cs =>
    match Text.Utf8.decode c with
    | .ok chars => (cellTexts (position + 1) cs).map (String.ofList chars :: ·)
    | .error inside => .error (position, inside)

/-- Records as text; `bytes` is the text they were read from. -/
def recordTexts (bytes : List UInt8) (position : Nat) :
    List (Record UInt8) → Except BadCell (List (List String))
  | [] => .ok []
  | r :: rs =>
    match cellTexts 0 r.cells with
    | .ok cells => (recordTexts bytes (position + 1) rs).map (cells :: ·)
    | .error (cell, inside) =>
      .error
        { record := position
          line := 1 + (bytes.take r.offset).count 0x0A
          cell
          offset := r.offset
          inside }

/-- The cells of all records of a file under a given separator. -/
def readRecords (separator : UInt8) (text : List Char) : Except BadCell (List (List String)) :=
  let bytes := Text.Utf8.encode text
  recordTexts bytes 0 (byteRecords separator bytes)

/-- The table of a delimited file.  Without a separator it is guessed. -/
def decode (bytes : List UInt8) (separator : Option UInt8) : Except ImportError Table :=
  let text := decodeText bytes
  let separator := separator.getD (UInt8.ofNat (sniff text).toNat)
  match readRecords separator text with
  | .error bad => .error (.unreadable bad.message)
  | .ok records =>
    match Table.ofRecords? records with
    | some table => .ok table
    | none => .error .noRows

end SheetIntake.Delimited
