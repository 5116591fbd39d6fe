import SheetIntake.Calendar.Date
import SheetIntake.Number.Numeral
import SheetIntake.Text.Blank

/-! # Notations of dates

A notation is a sequence of items that take up a text from end to end.  Number
items may have blanks before them and take one or two digits; a year takes up to
four digits, or a sign and any number of them.  Timestamps with an offset are
stricter: every number has its full width.  The date must exist and the clock
must be one, a sixtieth second included; the date is the one written, whatever
the offset. -/

namespace SheetIntake

namespace Notation

/-- What a number in a notation says. -/
inductive Part where
  | year
  | month
  | day
  | hour
  | minute
  | second
deriving DecidableEq

inductive Item where
  /-- A number after optional blanks. -/
  | number (part : Part)
  /-- A number of exactly so many digits. -/
  | digits (part : Part) (width : Nat)
  | oneOf (cs : List Char)
  /-- An optional point with digits after it. -/
  | fraction
  /-- `Z`, or a sign, hours and minutes. -/
  | offset

end Notation

/-- A way to write a date. -/
abbrev Notation := List Notation.Item

namespace Notation

/-- Date and time of day, as far as they have been read. -/
structure Reading where
  date : Date
  hour : Nat
  minute : Nat
  second : Nat
deriving DecidableEq, Inhabited

def Reading.start : Reading := ⟨⟨0, 1, 1⟩, 0, 0, 0⟩

/-- The reading is a date that exists and a time that the clock shows. -/
def Reading.IsReal (r : Reading) : Prop :=
  r.date.Exists ∧ r.hour ≤ 23 ∧ r.minute ≤ 59 ∧ r.second ≤ 60

instance : DecidablePred Reading.IsReal := fun r =>
  inferInstanceAs (Decidable (r.date.Exists ∧ _))

def Reading.set (r : Reading) (p : Part) (n : Int) : Reading :=
  match p with
  | .year => { r with date := { r.date with year := n } }
  | .month => { r with date := { r.date with month := n.toNat } }
  | .day => { r with date := { r.date with day := n.toNat } }
  | .hour => { r with hour := n.toNat }
  | .minute => { r with minute := n.toNat }
  | .second => { r with second := n.toNat }

/-- A number of one digit at least and `width` digits at most. -/
def takeNumber (width : Nat) (cs : List Char) : Option (Nat × List Char) :=
  let ds := (cs.take width).takeWhile Char.isDigit
  if ds.isEmpty then none else some (digitsValue ds, cs.drop ds.length)

/-- A number of exactly `width` digits. -/
def takeDigits (width : Nat) (cs : List Char) : Option (Nat × List Char) :=
  let ds := cs.take width
  if ds.length = width && ds.all Char.isDigit then some (digitsValue ds, cs.drop width) else none

/-- A year: up to four digits, or a sign and digits. -/
def takeYear : List Char → Option (Int × List Char)
  | '-' :: cs => (takeNumber cs.length cs).map fun (n, rest) => (-(n : Int), rest)
  | '+' :: cs => (takeNumber cs.length cs).map fun (n, rest) => ((n : Int), rest)
  | cs => (takeNumber 4 cs).map fun (n, rest) => ((n : Int), rest)

/-- The rest after an offset.  The hours go up to 23 and the minutes up to 59. -/
def dropOffset : List Char → Option (List Char)
  | [] => none
  | c :: cs =>
    if c = 'Z' ∨ c = 'z' then some cs
    else if c = '+' ∨ c = '-' ∨ c = '\u2212' then
      match takeDigits 2 cs with
      | some (h, ':' :: cs) =>
        match takeDigits 2 cs with
        | some (m, rest) => if h ≤ 23 ∧ m ≤ 59 then some rest else none
        | none => none
      | _ => none
    else none

/-- One item at the front of a text. -/
def step (r : Reading) (i : Item) (cs : List Char) : Option (Reading × List Char) :=
  match i with
  | .number .year => (takeYear (Text.trimStart cs)).map fun (n, rest) => (r.set .year n, rest)
  | .number p => (takeNumber 2 (Text.trimStart cs)).map fun (n, rest) => (r.set p n, rest)
  | .digits p width => (takeDigits width cs).map fun (n, rest) => (r.set p n, rest)
  | .oneOf allowed =>
    match cs with
    | c :: rest => if allowed.contains c then some (r, rest) else none
    | [] => none
  | .fraction =>
    match cs with
    | '.' :: rest =>
      match rest with
      | d :: _ => if d.isDigit then some (r, rest.dropWhile Char.isDigit) else none
      | [] => none
    | _ => some (r, cs)
  | .offset => (dropOffset cs).map fun rest => (r, rest)

/-- Items at the front of a text. -/
def run (r : Reading) : Notation → List Char → Option (Reading × List Char)
  | [], cs => some (r, cs)
  | i :: is, cs => (step r i cs).bind fun (r, rest) => run r is rest

/-- The date that a text writes in a notation. -/
def read? (n : Notation) (cs : List Char) : Option Date :=
  match run Reading.start n cs with
  | some (r, []) => if r.IsReal then some r.date else none
  | _ => none

/-! ## The accepted notations -/

/-- Year, month and day with hyphens. -/
def yearFirst : Notation :=
  [.number .year, .oneOf ['-'], .number .month, .oneOf ['-'], .number .day]

/-- A timestamp with an offset. -/
def withOffset : Notation :=
  [.digits .year 4, .oneOf ['-'], .digits .month 2, .oneOf ['-'], .digits .day 2,
    .oneOf ['T', 't', ' '],
    .digits .hour 2, .oneOf [':'], .digits .minute 2, .oneOf [':'], .digits .second 2,
    .fraction, .offset]

/-- A timestamp without an offset. -/
def withoutOffset : Notation :=
  yearFirst ++
    [.oneOf ['T'], .number .hour, .oneOf [':'], .number .minute, .oneOf [':'], .number .second,
      .fraction]

/-- Day, month and year with a separator. -/
def dayFirst (separator : Char) : Notation :=
  [.number .day, .oneOf [separator], .number .month, .oneOf [separator], .number .year]

/-- The notations in the order in which they are tried. -/
def accepted : List Notation :=
  [yearFirst, withOffset, withoutOffset, dayFirst '/', dayFirst '-']

/-- The date that a text writes in the first notation that fits. -/
def date? (cs : List Char) : Option Date := accepted.findSome? fun n => read? n cs

end Notation

end SheetIntake
