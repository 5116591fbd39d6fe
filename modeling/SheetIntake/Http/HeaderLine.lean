import SheetIntake.Text.MediaType
import SheetIntake.Text.Utf8

/-! # Header lines

A header line is a name, a colon and a value.  The name is a token, and the value is made
of visible bytes and blanks, of which those around it do not count.  A line ends in a line
feed or in a carriage return and a line feed, and an empty line ends the header.  A header
with a line that is none, or with more than so many lines, cannot be read. -/

namespace SheetIntake.Http

/-- A header line; the name is in lower case. -/
structure HeaderLine where
  name : String
  value : List UInt8
deriving DecidableEq

namespace HeaderLine

/-! ## Bytes -/

def isTokenByte (b : UInt8) : Bool := Text.MediaType.isTokenChar (Char.ofNat b.toNat)

def isBlankByte (b : UInt8) : Bool := b == 0x20 || b == 0x09

def isValueByte (b : UInt8) : Bool := b == 0x09 || (0x20 ≤ b && b != 0x7F)

/-- Bytes without the blanks around them. -/
def trimBytes (bs : List UInt8) : List UInt8 :=
  ((bs.dropWhile isBlankByte).reverse.dropWhile isBlankByte).reverse

/-- Bytes as characters of the same numbers. -/
def plainText (bs : List UInt8) : String := String.ofList (bs.map fun b => Char.ofNat b.toNat)

/-! ## Reading -/

/-- What follows a line end. -/
def dropLineEnd? : List UInt8 → Option (List UInt8)
  | 0x0D :: 0x0A :: rest => some rest
  | 0x0A :: rest => some rest
  | _ => none

/-- A line, and what follows it. -/
def take? (bytes : List UInt8) : Option (HeaderLine × List UInt8) :=
  let name := bytes.takeWhile isTokenByte
  match bytes.dropWhile isTokenByte with
  | 0x3A :: rest =>
    if name.isEmpty then none
    else (dropLineEnd? (rest.dropWhile isValueByte)).map fun behind =>
      ({ name := Text.asciiLower (plainText name)
         value := trimBytes (rest.takeWhile isValueByte) }, behind)
  | _ => none

/-- The lines up to an empty one, at most `room` of them. -/
def readAll? (room : Nat) (bytes : List UInt8) : Option (List HeaderLine) :=
  if (dropLineEnd? bytes).isSome then some []
  else match room with
    | 0 => none
    | room + 1 => (take? bytes).bind fun (line, rest) => (readAll? room rest).map (line :: ·)

/-- The value of the last line with a name. -/
def value? (lines : List HeaderLine) (name : String) : Option (List UInt8) :=
  (lines.reverse.find? fun l => l.name == name).map HeaderLine.value

/-- A value as text, if it is made of visible ASCII characters and blanks. -/
def visibleText? (value : List UInt8) : Option String :=
  if value.all fun b => b == 0x09 || (0x20 ≤ b && b < 0x7F) then some (plainText value) else none

end HeaderLine

end SheetIntake.Http
