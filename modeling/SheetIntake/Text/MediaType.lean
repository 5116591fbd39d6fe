import SheetIntake.Text.Case

/-! # Content types

A content type is a media type with parameters behind semicolons, such as
`text/plain; charset=utf-8`.  It is made of tokens: words of letters, digits and a few
marks.  The part of the subtype behind its last plus is its suffix.  The value of a
parameter is a token, or stands between quotation marks and has one character at least.
Blanks are allowed in front of a parameter and behind a quoted value, and nowhere else. -/

namespace SheetIntake.Text

/-- A media type with its parameters.  All names are in lower case. -/
structure MediaType where
  type : String
  subtype : String
  suffix : Option String
  parameters : List (String × String)
deriving DecidableEq

namespace MediaType

/-! ## Tokens -/

/-- The marks that tokens may hold. -/
def tokenMarks : List Char := "!#$%&'*+-.^_`|~".toList

def isTokenChar (c : Char) : Bool := c.isAlphanum || tokenMarks.contains c

/-- A character that may stand between quotation marks. -/
def isQuotable (c : Char) : Bool := 0x20 ≤ c.toNat && c.toNat ≠ 0x7F

/-! ## Parameters -/

/-- Where a reader of parameters stands; what has been read of a name or a value is given
last character first. -/
inductive Place where
  /-- In front of a parameter, where blanks are allowed and the text may end. -/
  | front
  | name (read : List Char)
  | value (name : String) (read : List Char)
  /-- In a value in quotation marks.  One that follows the first is part of the value. -/
  | quoted (name : String) (read : List Char)
  /-- Behind a value in quotation marks. -/
  | closed

/-- Reads on in parameters. -/
def parameters? : Place → List Char → Option (List (String × String))
  | .front, [] | .closed, [] => some []
  | .value name read, [] => some [(name, String.ofList read.reverse)]
  | .name _, [] | .quoted .., [] => none
  | .front, c :: cs =>
    if c = ' ' then parameters? .front cs
    else if isTokenChar c then parameters? (.name [c]) cs
    else none
  | .name read, c :: cs =>
    if isTokenChar c then parameters? (.name (c :: read)) cs
    else if c = '=' then parameters? (.value (asciiLower (String.ofList read.reverse)) []) cs
    else none
  | .value name read, c :: cs =>
    if c = '"' && read.isEmpty then parameters? (.quoted name []) cs
    else if isTokenChar c then parameters? (.value name (c :: read)) cs
    else if c = ';' && !read.isEmpty then
      (parameters? .front cs).map ((name, String.ofList read.reverse) :: ·)
    else none
  | .quoted name read, c :: cs =>
    if c = '"' && !read.isEmpty then
      (parameters? .closed cs).map ((name, String.ofList read.reverse) :: ·)
    else if isQuotable c then parameters? (.quoted name (c :: read)) cs
    else none
  | .closed, c :: cs =>
    if c = ' ' then parameters? .closed cs
    else if c = ';' then parameters? .front cs
    else none

/-! ## Media types -/

/-- A subtype without its suffix, and the suffix.  A plus at the front starts no suffix. -/
def splitSuffix (cs : List Char) : List Char × Option (List Char) :=
  let suffix := (cs.reverse.takeWhile (· ≠ '+')).reverse
  let subtype := cs.take (cs.length - suffix.length - 1)
  if subtype.isEmpty then (cs, none) else (subtype, some suffix)

/-- The media type of a type and a subtype that may have a suffix. -/
def ofTokens (type subtype : List Char) (parameters : List (String × String)) : MediaType :=
  let (subtype, suffix) := splitSuffix subtype
  { type := asciiLower (String.ofList type)
    subtype := asciiLower (String.ofList subtype)
    suffix := suffix.map fun cs => asciiLower (String.ofList cs)
    parameters }

/-- Reads a content type. -/
def parse? (s : String) : Option MediaType :=
  let type := s.toList.takeWhile isTokenChar
  match s.toList.dropWhile isTokenChar with
  | '/' :: cs =>
    let subtype := cs.takeWhile isTokenChar
    if type.isEmpty then none
    else match cs.dropWhile isTokenChar with
      | [] => some (ofTokens type subtype [])
      | ';' :: rest =>
        if subtype.isEmpty then none
        else (parameters? .front rest).map (ofTokens type subtype)
      | _ => none
  | _ => none

/-- The value of the first parameter with a name. -/
def parameter? (m : MediaType) (name : String) : Option String := m.parameters.lookup name

end MediaType

end SheetIntake.Text
