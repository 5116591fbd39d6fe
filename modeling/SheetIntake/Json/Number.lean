import SheetIntake.Number.Numeral

/-! # Numbers in JSON text

A number without fraction and exponent is an integer when 64 bits hold it, with
or without sign; the negative zero is none.  Every other number is a double: the
leading digits that fit into 64 bits, rounded, then multiplied or divided by one
power of ten and rounded again.  Digits beyond those are dropped.  A number
beyond the range of doubles has no value. -/

namespace SheetIntake.Json

/-- A number as it was written, in digits. -/
structure WrittenNumber where
  negative : Bool
  whole : List Char
  /-- The digits after the point, if there is a point. -/
  fraction : Option (List Char)
  /-- The sign and the digits of the exponent, if there is one. -/
  exponent : Option (Bool × List Char)

/-- The value of a number in JSON text. -/
inductive NumberValue where
  | int (n : Int)
  | real (x : Binary64)
  | tooLarge

/-- The largest number that 64 bits hold. -/
def maxWord : Nat := Nat.pow 2 64 - 1

/-- The leading digits that fit into 64 bits, and how many are left. -/
def leadingDigits (significand : Nat) : List Char → Nat × Nat
  | [] => (significand, 0)
  | d :: ds =>
    let next := significand * 10 + digitValue d
    if maxWord < next then (significand, ds.length + 1) else leadingDigits next ds

/-- `x * 10 ^ e` in one step, or in two steps when the power of ten is no double. -/
def scale (x : Binary64) (e : Int) : Option Binary64 :=
  let power (k : Nat) := Binary64.ofDecimal false 1 k
  if 308 < e then (if x.absLt 1 then some x else none)
  else if 0 ≤ e then
    let y := x * power e.toNat
    if y.isFinite then some y else none
  else if -308 ≤ e then some (x / power (-e).toNat)
  else if -616 ≤ e then some (x / power 308 / power (-(e + 308)).toNat)
  else some (Binary64.zero x.negative)

namespace WrittenNumber

/-- The double that a number is read as. -/
def toReal (w : WrittenNumber) : NumberValue :=
  let (s, skipped) := leadingDigits 0 w.whole
  let fraction := w.fraction.getD []
  let (s, rest) := leadingDigits s fraction
  let places : Int := (skipped : Int) - (fraction.length - rest)
  let x := Binary64.ofRatio w.negative s 1
  let (negative, ds) := w.exponent.getD (false, [])
  let e := digitsValue ds
  if Nat.pow 2 31 ≤ e then
    if s ≠ 0 ∧ ¬negative then .tooLarge else .real (Binary64.zero w.negative)
  else match scale x (places + (if negative then -(e : Int) else e)) with
    | some y => .real y
    | none => .tooLarge

def value (w : WrittenNumber) : NumberValue :=
  if w.fraction.isSome || w.exponent.isSome then w.toReal
  else
    let n := digitsValue w.whole
    if w.negative then
      if n = 0 ∨ Nat.pow 2 63 < n then w.toReal else .int (-n)
    else if n ≤ maxWord then .int n else w.toReal

end WrittenNumber

end SheetIntake.Json
