import SheetIntake.Number.Shortest

/-! # Written forms of doubles

A layout says how the shortest digits of a double are put on the page: which
exponents are written in positional notation, whether a whole number keeps its
`.0`, and which of two equally near decimals is taken. -/

namespace SheetIntake

/-- How doubles are written. -/
structure Layout where
  /-- The exponents of the leading digit, first to last, that are written in positional
  notation; all of them when absent. -/
  positional : Option (Int × Int)
  /-- Whether a whole number in positional notation ends in `.0`. -/
  keepsPoint : Bool
  tie : Tie

namespace Layout

/-- Digits in positional notation; the first digit stands at the power `lead` of ten. -/
def positionalChars (keepsPoint : Bool) (digits : List Char) (lead : Int) : List Char :=
  let whole : Int := lead + 1
  if whole ≤ 0 then
    '0' :: '.' :: List.replicate (-whole).toNat '0' ++ digits
  else if digits.length ≤ whole.toNat then
    digits ++ List.replicate (whole.toNat - digits.length) '0' ++
      (if keepsPoint then ['.', '0'] else [])
  else
    digits.take whole.toNat ++ '.' :: digits.drop whole.toNat

/-- Digits in scientific notation, the exponent always with its sign. -/
def scientificChars (digits : List Char) (lead : Int) : List Char :=
  let sign := if lead < 0 then '-' else '+'
  let exponent := 'e' :: sign :: Nat.toDigits 10 lead.natAbs
  match digits with
  | [] => exponent
  | [d] => d :: exponent
  | d :: ds => d :: '.' :: ds ++ exponent

/-- The magnitude of a finite double. -/
def magnitude (l : Layout) (mantissa : Nat) (exponent : Int) : List Char :=
  let d := Decimal.shortest l.tie mantissa exponent
  let digits := Nat.toDigits 10 d.digits
  let lead := d.exponent + digits.length - 1
  match l.positional with
  | none => positionalChars l.keepsPoint digits lead
  | some (first, last) =>
    if first ≤ lead ∧ lead ≤ last then positionalChars l.keepsPoint digits lead
    else scientificChars digits lead

/-- A double as text. -/
def write (l : Layout) : Binary64 → String
  | .nan => "NaN"
  | .infinite negative => if negative then "-inf" else "inf"
  | .finite negative m e =>
    String.ofList ((if negative then ['-'] else []) ++ l.magnitude m e)

end Layout

end SheetIntake
