import SheetIntake.Number.Binary64

/-! # Decimal numerals

A numeral is an optional sign, digits with an optional point, and an optional
exponent; it stands for an exact decimal number.  Number text is a numeral or
one of the names `inf`, `infinity` and `nan` in any case.  Only ASCII counts,
and neither blanks nor separators are allowed. -/

namespace SheetIntake

/-- The value of a digit. -/
def digitValue (c : Char) : Nat := c.toNat - '0'.toNat

/-- The number that decimal digits write. -/
def digitsValue (ds : List Char) : Nat := ds.foldl (fun n c => n * 10 + digitValue c) 0

/-- A numeral with the exact value `coefficient * 10 ^ exponent`, negated when `negative`
holds. -/
structure Numeral where
  negative : Bool
  coefficient : Nat
  exponent : Int
deriving DecidableEq

/-- What number text says. -/
inductive NumberText where
  | numeral (n : Numeral)
  | infinity (negative : Bool)
  | nan
deriving DecidableEq

/-- A leading sign, and what follows it. -/
def takeSign : List Char → Bool × List Char
  | '-' :: cs => (true, cs)
  | '+' :: cs => (false, cs)
  | cs => (false, cs)

namespace Numeral

/-- An exponent part that takes up the whole text: nothing, or `e`, a sign and digits. -/
def exponentPart? : List Char → Option Int
  | [] => some 0
  | c :: cs =>
    if c = 'e' ∨ c = 'E' then
      let (negative, ds) := takeSign cs
      if ds.isEmpty || !ds.all Char.isDigit then none
      else some (if negative then -(digitsValue ds : Int) else digitsValue ds)
    else none

/-- An unsigned numeral that takes up the whole text. -/
def unsigned? (negative : Bool) (cs : List Char) : Option Numeral :=
  let whole := cs.takeWhile Char.isDigit
  let (fraction, rest) := match cs.dropWhile Char.isDigit with
    | '.' :: cs => (cs.takeWhile Char.isDigit, cs.dropWhile Char.isDigit)
    | cs => ([], cs)
  if whole.isEmpty && fraction.isEmpty then none
  else (exponentPart? rest).map fun e =>
    { negative, coefficient := digitsValue (whole ++ fraction), exponent := e - fraction.length }

/-- The double nearest a numeral. -/
def toBinary64 (n : Numeral) : Binary64 := Binary64.ofDecimal n.negative n.coefficient n.exponent

/-- Whether the exact value of a numeral is the integer `n`. -/
def Denotes (a : Numeral) (n : Int) : Prop :=
  (if a.negative then -(a.coefficient : Int) else a.coefficient) * Int.pow 10 a.exponent.toNat =
    n * Int.pow 10 (-a.exponent).toNat

end Numeral

namespace NumberText

/-- Reads a text that is number text from end to end. -/
def parse? (s : String) : Option NumberText :=
  let (negative, cs) := takeSign s.toList
  let name := cs.map Char.toLower
  if name = "inf".toList ∨ name = "infinity".toList then some (.infinity negative)
  else if name = "nan".toList then some .nan
  else (Numeral.unsigned? negative cs).map .numeral

def toBinary64 : NumberText → Binary64
  | numeral n => n.toBinary64
  | infinity negative => .infinite negative
  | nan => .nan

end NumberText

/-- The double that a text writes. -/
def Binary64.parse? (s : String) : Option Binary64 := (NumberText.parse? s).map NumberText.toBinary64

end SheetIntake
