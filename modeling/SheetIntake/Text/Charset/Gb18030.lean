import SheetIntake.Text.Charset.Gb18030Index
import SheetIntake.Text.Charset.Pairs

/-! # Reading the simplified Chinese character set

A byte below 80 is ASCII, and 80 alone is the euro sign.  A byte from 81 to FE leads a pair,
or with a digit behind it a sequence of four.  Where a sequence breaks off, its first byte
becomes U+FFFD and the reader goes on behind it. -/

namespace SheetIntake.Text.Charset.Gb18030

def isLead (a : Nat) : Bool := 0x81 ≤ a && a ≤ 0xFE

def isDigit (b : Nat) : Bool := 0x30 ≤ b && b ≤ 0x39

def place? (b : Nat) : Option Nat :=
  if 0x40 ≤ b ∧ b ≤ 0x7E then some (b - 0x40)
  else if 0x80 ≤ b ∧ b ≤ 0xFE then some (b - 0x41)
  else none

def pair? (a b : Nat) : Option Char := (place? b).bind (indexed? index (a - 0x81))

/-- The number that four bytes count. -/
def number (a b c d : Nat) : Nat :=
  (((a - 0x81) * 10 + (b - 0x30)) * 126 + (c - 0x81)) * 10 + (d - 0x30)

/-- The character with a number. -/
def numbered? (n : Nat) : Option Char :=
  if n = 7457 then some '\uE7C7'
  else if (39420 ≤ n ∧ n < 189000) ∨ 1237575 < n then none
  else (runs.reverse.find? fun r => r.1 ≤ n).map fun r => Char.ofNat (r.2 + (n - r.1))

def decode : List Nat → List Char
  | [] => []
  | a :: rest =>
    if a < 0x80 then Char.ofNat a :: decode rest
    else if a = 0x80 then '\u20AC' :: decode rest
    else if !isLead a then Utf8.replacement :: decode rest
    else match rest with
      | [] => [Utf8.replacement]
      | b :: behind =>
        if isDigit b then
          match behind with
          | [] => [Utf8.replacement]
          | c :: ds =>
            if !isLead c then Utf8.replacement :: Char.ofNat b :: decode (c :: ds)
            else match ds with
              | [] => [Utf8.replacement]
              | d :: es =>
                if isDigit d then
                  (numbered? (number a b c d)).getD Utf8.replacement :: decode es
                else Utf8.replacement :: Char.ofNat b :: decode (c :: d :: es)
        else match pair? a b with
          | some c => c :: decode behind
          | none =>
            if b < 0x80 then Utf8.replacement :: Char.ofNat b :: decode behind
            else Utf8.replacement :: decode behind
termination_by bytes => bytes.length
decreasing_by
  all_goals
    simp only [List.length_cons]
    omega

end SheetIntake.Text.Charset.Gb18030
