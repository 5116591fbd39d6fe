import SheetIntake.Number.Binary64

/-! # The fewest digits that read back

The reals that round to a double form an interval around it, its ends included
when the mantissa is even.  Among the decimals in that interval the shortest
ones are the multiples of the largest power of ten that has a multiple there,
and of these the one nearest the double is taken. -/

namespace SheetIntake

/-- The decimal `digits * 10 ^ exponent`. -/
structure Decimal where
  digits : Nat
  exponent : Int
deriving DecidableEq

/-- Which of two equally near decimals is taken. -/
inductive Tie where
  | up
  | even
deriving DecidableEq

namespace Shortest

/-- The interval of reals that round to `mantissa * 2 ^ exponent`, in units of
`2 ^ (exponent - 2)`: its middle and its two ends.  Below a power of two the doubles lie
twice as dense. -/
structure Span where
  low : Nat
  middle : Nat
  high : Nat
  closed : Bool
  exponent : Int

def Span.of (mantissa : Nat) (exponent : Int) : Span where
  low := 4 * mantissa - if mantissa = Nat.pow 2 52 ∧ exponent ≠ Binary64.minExponent then 1 else 2
  middle := 4 * mantissa
  high := 4 * mantissa + 2
  closed := mantissa % 2 == 0
  exponent := exponent - 2

/-- Whether `n * u` lies in the span whose ends have been multiplied to `low` and `high`. -/
def within (closed : Bool) (low high x : Nat) : Bool :=
  if closed then low ≤ x && x ≤ high else low < x && x < high

/-- The multiple of `10 ^ k` in the span that is nearest its middle, as a multiplier. -/
def Span.multiple? (tie : Tie) (s : Span) (k : Int) : Option Nat :=
  let up := Nat.pow 2 s.exponent.toNat * Nat.pow 10 (-k).toNat
  let unit := Nat.pow 2 (-s.exponent).toNat * Nat.pow 10 k.toNat
  let low := s.low * up
  let middle := s.middle * up
  let high := s.high * up
  let n := middle / unit
  let below := within s.closed low high (n * unit)
  let above := within s.closed low high ((n + 1) * unit)
  let twice := 2 * (middle % unit)
  match below, above with
  | false, false => none
  | true, false => some n
  | false, true => some (n + 1)
  | true, true =>
    if twice < unit then some n
    else if unit < twice then some (n + 1)
    else match tie with
      | .up => some (n + 1)
      | .even => some (n + n % 2)

/-- The power of ten of the leading digit of the span's upper end. -/
def Span.leading (s : Span) : Int :=
  let scaled :=
    s.high * Nat.pow 2 s.exponent.toNat * Nat.pow 10 400 / Nat.pow 2 (-s.exponent).toNat
  ((Nat.toDigits 10 scaled).length : Int) - 1 - 400

/-- The shortest decimal in a span, searched for from the leading digit down.  Seventeen
digits are always enough. -/
def Span.shortest (tie : Tie) (s : Span) : Decimal :=
  let found := (List.range 18).findSome? fun (i : Nat) =>
    let k := s.leading - i
    (s.multiple? tie k).map fun n => { digits := n, exponent := k : Decimal }
  found.getD ⟨s.middle, 0⟩

end Shortest

/-- The shortest decimal that reads back as `mantissa * 2 ^ exponent`. -/
def Decimal.shortest (tie : Tie) (mantissa : Nat) (exponent : Int) : Decimal :=
  if mantissa = 0 then ⟨0, 0⟩ else (Shortest.Span.of mantissa exponent).shortest tie

end SheetIntake
