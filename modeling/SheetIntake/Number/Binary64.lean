/-! # Doubles as exact numbers

A finite double is a sign, a mantissa and an exponent, and stands for
`mantissa * 2 ^ exponent`.  Every operation is defined by one rule: take the
exact rational result and round it to the nearest double, a tie going to the
even mantissa.  All of it is arithmetic on natural numbers. -/

namespace SheetIntake

/-- A double. -/
inductive Binary64 where
  | nan
  | infinite (negative : Bool)
  /-- The number `mantissa * 2 ^ exponent`, negated when `negative` holds. -/
  | finite (negative : Bool) (mantissa : Nat) (exponent : Int)
deriving DecidableEq

namespace Binary64

/-! ## Form -/

/-- The exponent of the smallest doubles. -/
def minExponent : Int := -1074

/-- The exponent of the largest doubles. -/
def maxExponent : Int := 971

/-- One form per number: 53 bits at most, and all of them used unless the exponent is least. -/
def IsCanonical : Binary64 → Prop
  | nan | infinite _ => True
  | finite _ m e =>
    m < Nat.pow 2 53 ∧ minExponent ≤ e ∧ e ≤ maxExponent ∧ (Nat.pow 2 52 ≤ m ∨ e = minExponent)

instance : DecidablePred IsCanonical
  | nan | infinite _ => isTrue trivial
  | finite _ m _ => inferInstanceAs (Decidable (m < Nat.pow 2 53 ∧ _))

def zero (negative : Bool) : Binary64 := finite negative 0 minExponent

instance : Inhabited Binary64 := ⟨zero false⟩

def isFinite : Binary64 → Bool
  | finite .. => true
  | _ => false

/-! ## Rounding -/

/-- The nearest natural number to `num / den`, a tie going to the even one. -/
def roundHalfEven (num den : Nat) : Nat :=
  let q := num / den
  let r := num % den
  if 2 * r < den then q else if den < 2 * r then q + 1 else q + q % 2

/-- Numerator and denominator of `num / den / 2 ^ e`. -/
def unscale (num den : Nat) (e : Int) : Nat × Nat :=
  (num * Nat.pow 2 (-e).toNat, den * Nat.pow 2 e.toNat)

/-- The exponent with which `num / den` takes 53 bits, or the least one. -/
def exponentFor (num den : Nat) : Int :=
  let e : Int := (Nat.log2 num : Int) - Nat.log2 den - 52
  let (n, d) := unscale num den e
  max minExponent (if n < d * Nat.pow 2 52 then e - 1 else e)

/-- The nearest double to `num / den`. -/
def ofRatio (negative : Bool) (num den : Nat) : Binary64 :=
  if num = 0 then zero negative
  else if den = 0 then infinite negative
  else
    let e := exponentFor num den
    let (n, d) := unscale num den e
    let m := roundHalfEven n d
    let (m, e) := if m = Nat.pow 2 53 then (Nat.pow 2 52, e + 1) else (m, e)
    if maxExponent < e then infinite negative else finite negative m e

/-- The nearest double to an integer. -/
def ofInt (n : Int) : Binary64 := ofRatio (n < 0) n.natAbs 1

/-- The nearest double to `coefficient * 10 ^ exponent`.  Powers of ten far outside the
range of doubles are not computed. -/
def ofDecimal (negative : Bool) (coefficient : Nat) (exponent : Int) : Binary64 :=
  let width : Int := (Nat.toDigits 10 coefficient).length
  if coefficient = 0 then zero negative
  else if 400 < width + exponent then infinite negative
  else if width + exponent < -400 then zero negative
  else ofRatio negative (coefficient * Nat.pow 10 exponent.toNat) (Nat.pow 10 (-exponent).toNat)

/-! ## Arithmetic -/

/-- The sign with which a double counts. -/
def negative : Binary64 → Bool
  | nan => false
  | infinite s => s
  | finite s _ _ => s

/-- `mantissa * 2 ^ exponent` as numerator and denominator. -/
def ratio (mantissa : Nat) (exponent : Int) : Nat × Nat := unscale mantissa 1 (-exponent)

/-- The sum.  Two numbers that cancel give the positive zero. -/
def add : Binary64 → Binary64 → Binary64
  | nan, _ | _, nan => nan
  | infinite s, infinite t => if s = t then infinite s else nan
  | infinite s, finite .. => infinite s
  | finite .., infinite s => infinite s
  | finite s m e, finite t n f =>
    let (a, b) := ratio m e
    let (c, d) := ratio n f
    let left : Int := if s then -((a * d : Nat) : Int) else ((a * d : Nat) : Int)
    let right : Int := if t then -((c * b : Nat) : Int) else ((c * b : Nat) : Int)
    let sum := left + right
    if sum = 0 then zero (s && t) else ofRatio (sum < 0) sum.natAbs (b * d)

/-- The product. -/
def mul : Binary64 → Binary64 → Binary64
  | nan, _ | _, nan => nan
  | infinite s, infinite t => infinite (s != t)
  | infinite s, finite t n _ => if n = 0 then nan else infinite (s != t)
  | finite s m _, infinite t => if m = 0 then nan else infinite (s != t)
  | finite s m e, finite t n f =>
    let (a, b) := ratio m e
    let (c, d) := ratio n f
    ofRatio (s != t) (a * c) (b * d)

/-- The quotient. -/
def div : Binary64 → Binary64 → Binary64
  | nan, _ | _, nan => nan
  | infinite _, infinite _ => nan
  | infinite s, finite t _ _ => infinite (s != t)
  | finite s _ _, infinite t => zero (s != t)
  | finite s m e, finite t n f =>
    let (a, b) := ratio m e
    let (c, d) := ratio n f
    if n = 0 then (if m = 0 then nan else infinite (s != t))
    else ofRatio (s != t) (a * d) (b * c)

instance : Add Binary64 := ⟨add⟩
instance : Mul Binary64 := ⟨mul⟩
instance : Div Binary64 := ⟨div⟩

/-! ## Comparison and conversion -/

/-- Whether a double is less than a natural number in magnitude. -/
def absLt (x : Binary64) (bound : Nat) : Bool :=
  match x with
  | finite _ m e => let (a, b) := ratio m e; a < bound * b
  | _ => false

/-- Whether a double is less than a natural number. -/
def lt (x : Binary64) (bound : Nat) : Bool :=
  match x with
  | nan => false
  | infinite s => s
  | finite s m e => let (a, b) := ratio m e; s && a != 0 || a < bound * b

/-- The integer a double is, when it is one. -/
def toInt? : Binary64 → Option Int
  | finite s m e =>
    let (a, b) := ratio m e
    if a % b = 0 then some (if s then -((a / b : Nat) : Int) else ((a / b : Nat) : Int)) else none
  | _ => none

/-- The nearest integer, a tie going away from zero, held between the bounds of 64 bits.
What is no number counts as zero. -/
def roundToInt64 : Binary64 → Int
  | nan => 0
  | infinite s => if s then -Int.pow 2 63 else Int.pow 2 63 - 1
  | finite s m e =>
    let (a, b) := ratio m e
    let n : Int := ((2 * a + b) / (2 * b) : Nat)
    if s then max (-Int.pow 2 63) (-n) else min (Int.pow 2 63 - 1) n

end Binary64

end SheetIntake
