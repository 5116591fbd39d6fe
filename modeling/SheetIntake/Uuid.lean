/-! # Identifiers of sessions

A 128-bit number.  It is written as 32 hexadecimal digits in lower case, with hyphens
after the 8th, 12th, 16th and 20th.  It is read in any case in four forms: with these
hyphens or without any, and the hyphenated form also in braces or behind `urn:uuid:`. -/

namespace SheetIntake

structure Uuid where
  value : Nat
deriving DecidableEq, Inhabited

namespace Uuid

/-! ## Writing -/

/-- The 32 digits. -/
def digits (u : Uuid) : List Char :=
  let ds := Nat.toDigits 16 u.value
  List.replicate (32 - ds.length) '0' ++ ds

/-- The lengths of the groups between hyphens. -/
def groups : List Nat := [8, 4, 4, 4, 12]

/-- Characters in groups of given lengths. -/
def grouped : List Nat → List Char → List (List Char)
  | [], _ => []
  | n :: ns, cs => cs.take n :: grouped ns (cs.drop n)

/-- The form without hyphens. -/
def simple (u : Uuid) : String := String.ofList u.digits

/-- The form with hyphens. -/
def text (u : Uuid) : String :=
  "-".intercalate ((grouped groups u.digits).map String.ofList)

/-! ## Reading -/

/-- The value of a hexadecimal digit. -/
def digit? (c : Char) : Option Nat :=
  if c.isDigit then some (c.toNat - '0'.toNat)
  else if 'a' ≤ c ∧ c ≤ 'f' then some (c.toNat - 'a'.toNat + 10)
  else if 'A' ≤ c ∧ c ≤ 'F' then some (c.toNat - 'A'.toNat + 10)
  else none

/-- The number of 32 digits. -/
def ofDigits? (cs : List Char) : Option Uuid :=
  if cs.length = 32 then
    (cs.foldl (fun n c => return (← n) * 16 + (← digit? c)) (some 0)).map fun n => ⟨n⟩
  else none

/-- Characters without the hyphens that stand between their groups. -/
def dropHyphens? : List Nat → List Char → Option (List Char)
  | [], _ => none
  | [n], cs => if cs.length = n then some cs else none
  | n :: ns, cs =>
    match cs.drop n with
    | '-' :: rest => (dropHyphens? ns rest).map (cs.take n ++ ·)
    | _ => none

/-- Reads the form with hyphens. -/
def hyphenated? (cs : List Char) : Option Uuid := (dropHyphens? groups cs).bind ofDigits?

/-- What stands in front of the digits in the form of a name. -/
def nameHead : String := "urn:uuid:"

/-- Reads any of the forms. -/
def parse? (s : String) : Option Uuid :=
  let cs := s.toList
  match cs.length with
  | 32 => ofDigits? cs
  | 36 => hyphenated? cs
  | 38 => if cs.head? = some '\x7b' ∧ cs.getLast? = some '\x7d' then
      hyphenated? ((cs.drop 1).take 36) else none
  | 45 => if (cs.take 9).map Char.toLower = nameHead.toList then hyphenated? (cs.drop 9) else none
  | _ => none

end Uuid

end SheetIntake
