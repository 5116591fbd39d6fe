import SheetIntake.Http.Body
import SheetIntake.Http.HeaderLine
import SheetIntake.Text.Charset

/-! # Forms of parts

A form is written as parts between boundaries.  A part has header lines, an empty line and
its content; the header `content-disposition` says what the part and its file are called.
The writer puts names as they stand, so a name or a content that holds the marks of the
form changes what is read. -/

namespace SheetIntake.Http

/-! ## Attributes

A disposition is read for attributes such as `name="a"` or `name=a`.  The key stands at the
front or behind a blank or a semicolon.  A value in quotation marks may hold some of its
own, each behind a backslash; another one ends at a semicolon or a blank.  The first key
decides, and what follows it has to be a value. -/

namespace Attribute

/-- The value up to the closing quotation mark. -/
def quoted? : List UInt8 → Option (List UInt8)
  | [] => none
  | 0x5C :: 0x22 :: bs => (quoted? bs).map (0x22 :: ·)
  | 0x22 :: _ => some []
  | b :: bs => (quoted? bs).map (b :: ·)

/-- The value behind a key. -/
def value? (behind : List UInt8) : Option (List UInt8) :=
  match behind.dropWhile HeaderLine.isBlankByte with
  | 0x3D :: rest =>
    match rest.dropWhile HeaderLine.isBlankByte with
    | 0x22 :: bs => quoted? bs
    | bs => some (bs.takeWhile fun b => b != 0x3B && b != 0x20)
  | _ => none

/-- Whether a key may stand behind a byte. -/
def separates (b : UInt8) : Bool := HeaderLine.isBlankByte b || b == 0x3B

/-- The value of the first key.  `before` is the byte in front, if it counts, and `passed`
the number of bytes that belong to a longer word with the key in it. -/
def find? (key : List UInt8) (before : Option UInt8) (passed : Nat) :
    List UInt8 → Option (List UInt8)
  | [] => none
  | b :: bs =>
    match passed with
    | passed + 1 => find? key none passed bs
    | 0 =>
      if key.isPrefixOf (b :: bs) then
        if before.all separates then value? ((b :: bs).drop key.length)
        else find? key none (key.length - 1) bs
      else find? key (some b) 0 bs

/-- The value of an attribute as text. -/
def text? (key : String) (disposition : List UInt8) : Option String :=
  (find? (Text.Utf8.bytes key) none 0 disposition).bind fun bs =>
    ((Text.Utf8.decode bs).toOption).map String.ofList

end Attribute

/-! ## Parts -/

/-- A part as it has been read. -/
structure Part where
  headers : List HeaderLine
  content : Content

namespace Part

/-- The value of an attribute of the disposition. -/
def attribute? (p : Part) (key : String) : Option String :=
  (HeaderLine.value? p.headers "content-disposition").bind (Attribute.text? key)

/-- What a part is called. -/
def name? (p : Part) : Option String := p.attribute? "name"

/-- What the file in a part is called. -/
def fileName? (p : Part) : Option String := p.attribute? "filename"

/-- The character set of a part. -/
def charset (p : Part) : Text.Charset :=
  Text.Charset.ofContentType
    ((HeaderLine.value? p.headers "content-type").bind HeaderLine.visibleText?)

/-- The content of a part as text. -/
def text (p : Part) : String := p.charset.decode p.content.textBytes

end Part

/-! ## Writing -/

/-- A part to be written. -/
structure Field where
  name : Option String
  fileName : Option String
  content : Content

def lineEnd : String := "\r\n"

namespace Field

/-- What the part is called. -/
def disposition (f : Field) : String :=
  let written (key : String) : Option String → String
    | some value => s!"; {key}=\"{value}\""
    | none => ""
  "form-data" ++ written "name" f.name ++ written "filename" f.fileName

/-- The part without the boundaries around it. -/
def write (f : Field) : Body :=
  Body.ofText ("Content-Disposition: " ++ f.disposition ++ lineEnd ++ lineEnd) ++
    Body.ofContent f.content

end Field

/-- What stands in front of every part. -/
def mark (boundary : String) : String := "--" ++ boundary

/-- A form of parts. -/
def writeForm (boundary : String) (fields : List Field) : Body :=
  fields.foldr
    (fun f rest => Body.ofText (mark boundary ++ lineEnd) ++ f.write ++ Body.ofText lineEnd ++ rest)
    (Body.ofText (mark boundary ++ "--" ++ lineEnd))

/-! ## Reading -/

/-- The parts of a form as far as it can be read, and whether it has an end. -/
structure Form where
  parts : List Part
  whole : Bool

namespace Form

/-- What stands before and behind the first occurrence of a block. -/
def cut? (needle : List Symbol) : List Symbol → Option (List Symbol × List Symbol)
  | [] => if needle.isEmpty then some ([], []) else none
  | b :: bs =>
    if needle.isPrefixOf (b :: bs) then some ([], (b :: bs).drop needle.length)
    else (cut? needle bs).map fun (before, behind) => (b :: before, behind)

def lineEnds : List Symbol := (Body.ofText lineEnd).symbols

/-- Blanks may stand behind a boundary. -/
def isBlank (s : Symbol) : Bool := s.byte?.any HeaderLine.isBlankByte

/-- The most header lines that a part may have. -/
def headerRoom : Nat := 32

/-- A part behind a boundary, and what follows the next one. -/
def part? (mark symbols : List Symbol) : Option (Part × List Symbol) := do
  let line := symbols.dropWhile isBlank
  if !lineEnds.isPrefixOf line then none
  let (block, rest) ← cut? (lineEnds ++ lineEnds) (line.drop lineEnds.length)
  let headers ←
    HeaderLine.readAll? headerRoom (← (block ++ lineEnds ++ lineEnds).mapM Symbol.byte?)
  let (content, rest) ← cut? (lineEnds ++ mark) rest
  return ({ headers, content := (Body.mk content).content }, rest)

/-- The end of a form behind its last boundary. -/
def ending : List Symbol := (Body.ofText "--").symbols

/-- Reads parts from behind a boundary, at most `room` of them. -/
def readParts (mark : List Symbol) : Nat → List Symbol → Form
  | 0, _ => { parts := [], whole := false }
  | room + 1, symbols =>
    if ending.isPrefixOf symbols then { parts := [], whole := true }
    else match part? mark symbols with
      | none => { parts := [], whole := false }
      | some (p, rest) =>
        let form := readParts mark room rest
        { form with parts := p :: form.parts }

/-- Reads a form. -/
def read (boundary : String) (body : Body) : Form :=
  let mark := (Body.ofText (mark boundary)).symbols
  match cut? mark body.symbols with
  | none => { parts := [], whole := false }
  | some (_, rest) => readParts mark (rest.length + 1) rest

end Form

end SheetIntake.Http
