/-! # Occurrence of a block

Whether one list stands somewhere in another without a gap. -/

namespace SheetIntake.Text

/-- Whether `needle` occurs as a block. -/
def occursIn {α : Type} [BEq α] (needle : List α) : List α → Bool
  | [] => needle.isEmpty
  | c :: cs => needle.isPrefixOf (c :: cs) || occursIn needle cs

/-- Whether a text occurs in another. -/
def contains (text needle : String) : Bool := occursIn needle.toList text.toList

end SheetIntake.Text
