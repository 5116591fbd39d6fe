import SheetIntake.Text.Utf8

/-! # Character sets of words

Characters are written in words of 16 bits, those beyond FFFF as a high and a low
surrogate.  A surrogate without its other half becomes U+FFFD, and so does half a word at
the end. -/

namespace SheetIntake.Text.Charset

/-- The words of bytes, and whether half a word is left. -/
def words (bigEndian : Bool) : List UInt8 → List Nat × Bool
  | [] => ([], false)
  | [_] => ([], true)
  | a :: b :: bytes =>
    let word := if bigEndian then a.toNat * 256 + b.toNat else b.toNat * 256 + a.toNat
    let (ws, half) := words bigEndian bytes
    (word :: ws, half)

def isHighSurrogate (w : Nat) : Bool := 0xD800 ≤ w && w < 0xDC00

def isLowSurrogate (w : Nat) : Bool := 0xDC00 ≤ w && w < 0xE000

/-- The characters of words.  `half` holds if half a word is left behind them. -/
def ofWords (half : Bool) : List Nat → List Char
  | [] => if half then [Utf8.replacement] else []
  | [w] =>
    if isHighSurrogate w then [Utf8.replacement]
    else (if isLowSurrogate w then Utf8.replacement else Char.ofNat w) ::
      (if half then [Utf8.replacement] else [])
  | w :: v :: ws =>
    if isHighSurrogate w then
      if isLowSurrogate v then
        Char.ofNat (0x10000 + (w - 0xD800) * 0x400 + (v - 0xDC00)) :: ofWords half ws
      else Utf8.replacement :: ofWords half (v :: ws)
    else (if isLowSurrogate w then Utf8.replacement else Char.ofNat w) :: ofWords half (v :: ws)

/-- Reads words. -/
def decodeWide (bigEndian : Bool) (bytes : List UInt8) : List Char :=
  let (ws, half) := words bigEndian bytes
  ofWords half ws

end SheetIntake.Text.Charset
