import SheetIntake.Calendar.Notation
import SheetIntake.Text.Case

/-! # From the text of a cell to a value

A coercion never fails a row: what cannot be read as the wanted kind of value is
left out.  Dates are the exception; a text that is no date goes on as it is, for
the receiver to judge. -/

namespace SheetIntake.Coercion

/-- A text with something in it, trimmed. -/
def text? (s : String) : Option String := Text.trimmed? s

/-- A finite number. -/
def number? (s : String) : Option Binary64 :=
  (Binary64.parse? (Text.trim s)).filter Binary64.isFinite

/-- Integers are less than this in magnitude. -/
def integerBound : Nat := Nat.pow 2 63

/-- A number that is whole and not too large. -/
def integer? (s : String) : Option Int :=
  ((number? s).bind Binary64.toInt?).filter fun n => n.natAbs < integerBound

/-- The words for no. -/
def falseWords : List String := ["false", "0", "no", "inactivo"]

/-- No for the words for it, yes for every other text with something in it. -/
def boolean? (s : String) : Option Bool :=
  (text? s).map fun t => !falseWords.contains (Text.lower t)

/-- A date in any of the accepted notations, written year first; else the trimmed text. -/
def date? (s : String) : Option String :=
  (text? s).map fun t => ((Notation.date? t.toList).map Date.iso).getD t

end SheetIntake.Coercion
