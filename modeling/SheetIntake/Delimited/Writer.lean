import SheetIntake.Text.Utf8

/-! # Writing delimited text

The same records can be written in many ways.  A cell stands between quotation marks,
with the ones inside it written twice, or it stands bare, provided that it holds no
separator, no quotation mark and no line break.  A record ends in a line feed, a carriage
return or both, and more line breaks behind it are empty lines.  A byte order mark may
come first.  All of these ways are files of the same cells. -/

namespace SheetIntake.Delimited

/-! ## Cells -/

/-- The symbols of a text, every quotation mark twice. -/
def doubled : List Char → List Char
  | [] => []
  | '"' :: cs => '"' :: '"' :: doubled cs
  | c :: cs => c :: doubled cs

/-- A cell with the way in which it is written. -/
structure WrittenCell where
  text : String
  quoted : Bool
deriving DecidableEq

namespace WrittenCell

def chars (c : WrittenCell) : List Char :=
  if c.quoted then '"' :: doubled c.text.toList ++ ['"'] else c.text.toList

/-- The cell can be written in its way between separators. -/
def Fits (separator : Char) (c : WrittenCell) : Prop :=
  c.quoted ∨ ∀ x ∈ c.text.toList, x ≠ separator ∧ x ≠ '"' ∧ x ≠ '\n' ∧ x ≠ '\r'

instance (separator : Char) : DecidablePred (Fits separator) := fun c =>
  inferInstanceAs (Decidable (c.quoted ∨ _))

end WrittenCell

/-! ## Records -/

/-- What ends a line. -/
inductive LineBreak where
  | lf
  | cr
  | crlf
deriving DecidableEq

def LineBreak.chars : LineBreak → List Char
  | lf => ['\n']
  | cr => ['\r']
  | crlf => ['\r', '\n']

/-- A record with the line breaks behind it: the one that ends it, and those of the empty
lines that follow. -/
structure WrittenRecord where
  cells : List WrittenCell
  breaks : List LineBreak
deriving DecidableEq

namespace WrittenRecord

def texts (r : WrittenRecord) : List String := r.cells.map WrittenCell.text

def chars (separator : Char) (r : WrittenRecord) : List Char :=
  [separator].intercalate (r.cells.map WrittenCell.chars) ++ r.breaks.flatMap LineBreak.chars

/-- A record of quoted cells that ends in a line feed. -/
def quoted (cells : List String) : WrittenRecord where
  cells := cells.map fun text => { text, quoted := true }
  breaks := [.lf]

end WrittenRecord

/-! ## Files -/

/-- A file with the way in which it is written. -/
structure WrittenFile where
  hasMark : Bool
  records : List WrittenRecord
deriving DecidableEq

namespace WrittenFile

/-- The cells of a file. -/
def texts (f : WrittenFile) : List (List String) := f.records.map WrittenRecord.texts

def chars (separator : Char) (f : WrittenFile) : List Char :=
  f.records.flatMap (WrittenRecord.chars separator)

def bytes (separator : Char) (f : WrittenFile) : List UInt8 :=
  (if f.hasMark then Text.Utf8.mark else []) ++ Text.Utf8.encode (f.chars separator)

/-- The cells of the file fit, and a line break stands between two records. -/
def Fits (separator : Char) (f : WrittenFile) : Prop :=
  (∀ r ∈ f.records, ∀ c ∈ r.cells, c.Fits separator) ∧
    ∀ r ∈ f.records.dropLast, r.breaks ≠ []

instance (separator : Char) : DecidablePred (Fits separator) := fun f =>
  inferInstanceAs (Decidable ((∀ r ∈ f.records, ∀ c ∈ r.cells, c.Fits separator) ∧ _))

/-- The file in which every cell is quoted and every record ends in a line feed. -/
def quoted (records : List (List String)) : WrittenFile where
  hasMark := false
  records := records.map WrittenRecord.quoted

end WrittenFile

end SheetIntake.Delimited
