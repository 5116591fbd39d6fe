import SheetIntake.Text.Charset.Big5Index
import SheetIntake.Text.Charset.KoreanIndex
import SheetIntake.Text.Utf8

/-! # Character sets of two bytes

A byte below 80 is ASCII.  Another one may stand alone, or it leads a pair.  What is no
pair becomes U+FFFD; its second byte is lost unless it is ASCII. -/

namespace SheetIntake.Text.Charset

/-- The character at a place of an index. -/
def indexed? (rows : List String) (row place : Nat) : Option Char :=
  ((rows[row]?).bind fun r => r.toList[place]?).filter (· ≠ Utf8.replacement)

/-- A character set of two bytes. -/
structure Pairs where
  /-- The bytes that stand alone. -/
  single? : Nat → Option Char
  isLead : Nat → Bool
  pair? : Nat → Nat → Option (List Char)

namespace Pairs

def decode (p : Pairs) : List Nat → List Char
  | [] => []
  | a :: rest =>
    if a < 0x80 then Char.ofNat a :: decode p rest
    else match p.single? a with
      | some c => c :: decode p rest
      | none =>
        if !p.isLead a then Utf8.replacement :: decode p rest
        else match rest with
          | [] => [Utf8.replacement]
          | b :: behind =>
            match p.pair? a b with
            | some cs => cs ++ decode p behind
            | none =>
              if b < 0x80 then Utf8.replacement :: Char.ofNat b :: decode p behind
              else Utf8.replacement :: decode p behind
termination_by bytes => bytes.length
decreasing_by
  all_goals
    simp only [List.length_cons]
    omega

end Pairs

/-! ## Big5 -/

namespace Big5

/-- The pairs that stand for a letter with an accent that has no character of its own. -/
def accents : List ((Nat × Nat) × List Char) := [
  ((0x88, 0x62), ['\u00CA', '\u0304']), ((0x88, 0x64), ['\u00CA', '\u030C']),
  ((0x88, 0xA3), ['\u00EA', '\u0304']), ((0x88, 0xA5), ['\u00EA', '\u030C'])]

def place? (b : Nat) : Option Nat :=
  if 0x40 ≤ b ∧ b ≤ 0x7E then some (b - 0x40)
  else if 0xA1 ≤ b ∧ b ≤ 0xFE then some (b - 0x62)
  else none

def pairs : Pairs where
  single? := fun _ => none
  isLead := fun a => 0x81 ≤ a && a ≤ 0xFE
  pair? := fun a b =>
    (accents.lookup (a, b)).or <|
      (place? b).bind fun place => (indexed? index (a - 0x81) place).map fun c => [c]

end Big5

/-! ## Korean -/

namespace Korean

def pairs : Pairs where
  single? := fun _ => none
  isLead := fun a => 0x81 ≤ a && a ≤ 0xFE
  pair? := fun a b =>
    if b < 0x41 then none else (indexed? index (a - 0x81) (b - 0x41)).map fun c => [c]

end Korean

end SheetIntake.Text.Charset
