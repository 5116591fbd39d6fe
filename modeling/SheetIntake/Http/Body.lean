import SheetIntake.Text.Utf8
import SheetIntake.Upload.Content

/-! # Bodies

A body is a sequence of bytes.  The bytes of workbooks are left open, so in a body a
workbook stands as one symbol in place of the bytes of its file. -/

namespace SheetIntake.Http

/-- A symbol of a body. -/
inductive Symbol where
  | byte (b : UInt8)
  | book (w : Workbook)
deriving DecidableEq

namespace Symbol

def byte? : Symbol → Option UInt8
  | byte b => some b
  | book _ => none

/-- No file of a workbook is shorter than this. -/
def leastBook : Nat := 512

/-- The number of bytes that a symbol stands for, at least. -/
def size : Symbol → Nat
  | byte _ => 1
  | book _ => leastBook

end Symbol

structure Body where
  symbols : List Symbol
deriving DecidableEq

namespace Body

def ofBytes (bs : List UInt8) : Body := ⟨bs.map .byte⟩

def ofText (s : String) : Body := ofBytes (Text.Utf8.bytes s)

/-- The body that is nothing but a file. -/
def ofContent : Content → Body
  | .bytes bs => ofBytes bs
  | .workbook w => ⟨[.book w]⟩

def append (a b : Body) : Body := ⟨a.symbols ++ b.symbols⟩

instance : Append Body := ⟨append⟩

/-- The bytes of a body without workbooks. -/
def bytes (b : Body) : List UInt8 := b.symbols.filterMap Symbol.byte?

/-- The file that a body is. -/
def content (b : Body) : Content :=
  match b.symbols with
  | [.book w] => .workbook w
  | _ => .bytes b.bytes

/-- The number of bytes. -/
def length (b : Body) : Nat := b.symbols.foldl (fun n s => n + s.size) 0

end Body

end SheetIntake.Http
