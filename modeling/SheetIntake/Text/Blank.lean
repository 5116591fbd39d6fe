/-! # Blank characters and trimming

White space is the Unicode property `White_Space`.  A text is *blank* when it
holds nothing else, and `trim` cuts white space off both ends.  The zero width
space and the byte order mark are not white space. -/

namespace SheetIntake.Text

/-- The code points of the Unicode property `White_Space`. -/
def isBlankChar (c : Char) : Bool :=
  let n := c.toNat
  (0x9 ≤ n && n ≤ 0xD) || n == 0x20 || n == 0x85 || n == 0xA0 || n == 0x1680 ||
    (0x2000 ≤ n && n ≤ 0x200A) || n == 0x2028 || n == 0x2029 || n == 0x202F ||
    n == 0x205F || n == 0x3000

/-- Characters without the white space at their front. -/
def trimStart (cs : List Char) : List Char := cs.dropWhile isBlankChar

/-- Characters without the white space at their back. -/
def trimEnd (cs : List Char) : List Char := (trimStart cs.reverse).reverse

/-- Characters without the white space at either end. -/
def trimChars (cs : List Char) : List Char := trimEnd (trimStart cs)

/-- A text without the white space at either end. -/
def trim (s : String) : String := String.ofList (trimChars s.toList)

/-- Holds when a text is white space throughout, the empty text included. -/
def isBlank (s : String) : Bool := s.toList.all isBlankChar

/-- The trimmed text, when something is left of it. -/
def trimmed? (s : String) : Option String :=
  if isBlank s then none else some (trim s)

end SheetIntake.Text
