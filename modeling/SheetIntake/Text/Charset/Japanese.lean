import SheetIntake.Text.Charset.JapaneseIndex
import SheetIntake.Text.Charset.Pairs

/-! # Reading the Japanese character sets

The same sets of characters are written in three ways: in pairs whose first byte tells them
apart from ASCII, in bytes above A0, or in bytes of ASCII between escapes that switch from
one set to another. -/

namespace SheetIntake.Text.Charset.Japanese

/-- The narrow form of a syllable; `n` counts from 0. -/
def narrow (n : Nat) : Char := Char.ofNat (0xFF61 + n)

/-- The characters of the basic set and its extensions, counted through. -/
def numbered? (n : Nat) : Option Char :=
  if n < 8836 then indexed? basic (n / 94) (n % 94)
  else if n < 10716 then some (Char.ofNat (0xE000 + (n - 8836)))
  else indexed? extension ((n - 10716) / 94) ((n - 10716) % 94)

/-! ## Shifted pairs -/

def shiftedNumber? (a b : Nat) : Option Nat :=
  let row := (if a < 0xA0 then a - 0x81 else a - 0xC1) * 188
  if 0x40 ≤ b ∧ b ≤ 0x7E then some (row + (b - 0x40))
  else if 0x80 ≤ b ∧ b ≤ 0xFC then some (row + (b - 0x41))
  else none

def shifted : Pairs where
  single? := fun a =>
    if a = 0x80 then some '\u0080'
    else if 0xA1 ≤ a ∧ a ≤ 0xDF then some (narrow (a - 0xA1))
    else none
  isLead := fun a => (0x81 ≤ a && a ≤ 0x9F) || (0xE0 ≤ a && a ≤ 0xFC)
  pair? := fun a b => ((shiftedNumber? a b).bind numbered?).map fun c => [c]

/-! ## High bytes -/

def isHigh (b : Nat) : Bool := 0xA1 ≤ b && b ≤ 0xFE

/-- A character of the basic set in high bytes; 8E leads a narrow syllable. -/
def highPair? (a b : Nat) : Option Char :=
  if a = 0x8E then (if 0xA1 ≤ b ∧ b ≤ 0xDF then some (narrow (b - 0xA1)) else none)
  else if isHigh a && isHigh b then indexed? basic (a - 0xA1) (b - 0xA1)
  else none

/-- Reads high bytes; 8F leads a character of the supplementary set. -/
def decodeHigh : List Nat → List Char
  | [] => []
  | a :: rest =>
    if a < 0x80 then Char.ofNat a :: decodeHigh rest
    else if !(a == 0x8E || a == 0x8F || isHigh a) then Utf8.replacement :: decodeHigh rest
    else match rest with
      | [] => [Utf8.replacement]
      | b :: behind =>
        if a = 0x8F ∧ isHigh b then
          match behind with
          | [] => [Utf8.replacement]
          | c :: ds =>
            let found := if isHigh c then indexed? supplement (b - 0xA1) (c - 0xA1) else none
            match found with
            | some x => x :: decodeHigh ds
            | none =>
              if c < 0x80 then Utf8.replacement :: Char.ofNat c :: decodeHigh ds
              else Utf8.replacement :: decodeHigh ds
        else match highPair? a b with
          | some x => x :: decodeHigh behind
          | none =>
            if b < 0x80 then Utf8.replacement :: Char.ofNat b :: decodeHigh behind
            else Utf8.replacement :: decodeHigh behind
termination_by bytes => bytes.length
decreasing_by
  all_goals
    simp only [List.length_cons]
    omega

/-! ## Escapes -/

/-- The set that bytes are read in. -/
inductive Mode where
  | ascii
  | roman
  | narrow
  | wide

/-- The set that the bytes behind an escape switch to, and what follows them. -/
def switch? : List Nat → Option (Mode × List Nat)
  | 0x28 :: 0x42 :: rest => some (.ascii, rest)
  | 0x28 :: 0x4A :: rest => some (.roman, rest)
  | 0x28 :: 0x49 :: rest => some (.narrow, rest)
  | 0x24 :: 0x40 :: rest => some (.wide, rest)
  | 0x24 :: 0x42 :: rest => some (.wide, rest)
  | _ => none

theorem length_of_switch? {bytes rest : List Nat} {m : Mode} (h : switch? bytes = some (m, rest)) :
    rest.length < bytes.length := by
  unfold switch? at h
  split at h <;> cases h
  all_goals
    simp only [List.length_cons]
    omega

/-- A byte in a set of single bytes. -/
def single (m : Mode) (b : Nat) : Char :=
  match m with
  | .narrow => if 0x21 ≤ b ∧ b ≤ 0x5F then Japanese.narrow (b - 0x21) else Utf8.replacement
  | .roman =>
    if b = 0x5C then '\u00A5'
    else if b = 0x7E then '\u203E'
    else if b < 0x80 ∧ b ≠ 0x0E ∧ b ≠ 0x0F then Char.ofNat b
    else Utf8.replacement
  | _ => if b < 0x80 ∧ b ≠ 0x0E ∧ b ≠ 0x0F then Char.ofNat b else Utf8.replacement

def isPlain (b : Nat) : Bool := 0x21 ≤ b && b ≤ 0x7E

/-- Reads bytes with escapes.  `idle` holds if nothing has been read since the last escape;
one that follows then makes no sense. -/
def decodeEscaped (m : Mode) (idle : Bool) : List Nat → List Char
  | [] => []
  | a :: rest =>
    if a = 0x1B then
      match _h : switch? rest with
      | some (next, behind) =>
        (if idle then [Utf8.replacement] else []) ++ decodeEscaped next true behind
      | none => Utf8.replacement :: decodeEscaped m false rest
    else match m with
      | .wide =>
        if !isPlain a then Utf8.replacement :: decodeEscaped m false rest
        else match rest with
          | [] => [Utf8.replacement]
          | b :: behind =>
            if b = 0x1B then Utf8.replacement :: decodeEscaped m false (b :: behind)
            else if isPlain b then
              ((indexed? basic (a - 0x21) (b - 0x21)).getD Utf8.replacement) ::
                decodeEscaped m false behind
            else Utf8.replacement :: decodeEscaped m false behind
      | _ => single m a :: decodeEscaped m false rest
termination_by bytes => bytes.length
decreasing_by
  · have k := length_of_switch? _h
    simp only [List.length_cons]
    omega
  all_goals
    simp only [List.length_cons]
    omega

end SheetIntake.Text.Charset.Japanese
