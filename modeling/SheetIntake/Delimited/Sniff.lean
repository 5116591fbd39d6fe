import SheetIntake.Text.Blank

/-! # Guessing the separator

Of the four candidates the one that occurs most often in the first line with
something in it is taken, the earlier one of equals; without any of them it is
the comma.  Lines end at line feeds here, and quotation marks count for nothing. -/

namespace SheetIntake.Delimited

/-- The separators looked for, in order of precedence. -/
def candidates : List Char := [',', ';', '\t', '|']

/-- The lines of a text, without their line feeds. -/
def lines : List Char → List (List Char)
  | [] => [[]]
  | c :: cs =>
    if c = '\n' then [] :: lines cs
    else match lines cs with
      | [] => [[c]]
      | l :: ls => (c :: l) :: ls

/-- The first line with something in it, or the empty line. -/
def firstFullLine (cs : List Char) : List Char :=
  ((lines cs).find? fun l => !l.all Text.isBlankChar).getD []

/-- The candidate that occurs most often in a line. -/
def mostFrequent (line : List Char) : Char :=
  (candidates.foldl (fun best c =>
    let n := line.count c
    if best.2 < n then (c, n) else best) (',', 0)).1

/-- The separator of a text. -/
def sniff (cs : List Char) : Char := mostFrequent (firstFullLine cs)

end SheetIntake.Delimited
