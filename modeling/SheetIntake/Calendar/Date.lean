/-! # Dates and moments

The proleptic Gregorian calendar over the years -262143 to 262142.  A date is
written year first, the year with four digits at least and with a sign when it
is negative or has five digits and more. -/

namespace SheetIntake

/-- A day of the calendar, or three numbers that look like one. -/
structure Date where
  year : Int
  month : Nat
  day : Nat
deriving DecidableEq, Inhabited

namespace Date

def minYear : Int := -262143

def maxYear : Int := 262142

def isLeap (year : Int) : Bool := year % 4 == 0 && (year % 100 != 0 || year % 400 == 0)

/-- The number of days in a month, 0 for what is no month. -/
def daysIn (year : Int) (month : Nat) : Nat :=
  if month = 2 then (if isLeap year then 29 else 28)
  else if month = 4 ∨ month = 6 ∨ month = 9 ∨ month = 11 then 30
  else if 1 ≤ month ∧ month ≤ 12 then 31
  else 0

/-- The date exists. -/
def Exists (d : Date) : Prop :=
  minYear ≤ d.year ∧ d.year ≤ maxYear ∧ 1 ≤ d.month ∧ d.month ≤ 12 ∧
    1 ≤ d.day ∧ d.day ≤ daysIn d.year d.month

instance : DecidablePred Exists := fun d =>
  inferInstanceAs (Decidable (minYear ≤ d.year ∧ _))

/-! ## Day numbers -/

/-- The date that lies `n` days after 1 March of the year 0.  Counted from March the leap
day ends its year, so the months have fixed lengths; 146097 days make 400 years. -/
def ofDaysAfterMarch0 (n : Int) : Date :=
  let era := n / 146097
  let dayOfEra := (n % 146097).toNat
  let yearOfEra := (dayOfEra - dayOfEra / 1460 + dayOfEra / 36524 - dayOfEra / 146096) / 365
  let dayOfYear := dayOfEra - (365 * yearOfEra + yearOfEra / 4 - yearOfEra / 100)
  let monthFromMarch := (5 * dayOfYear + 2) / 153
  let month := if monthFromMarch < 10 then monthFromMarch + 3 else monthFromMarch - 9
  { year := (yearOfEra : Int) + era * 400 + (if month ≤ 2 then 1 else 0)
    month
    day := dayOfYear - (153 * monthFromMarch + 2) / 5 + 1 }

/-! ## Writing -/

/-- A number with at least `width` digits. -/
def padded (width n : Nat) : List Char :=
  let ds := Nat.toDigits 10 n
  List.replicate (width - ds.length) '0' ++ ds

/-- A year: four digits, or a sign and at least four. -/
def yearChars (year : Int) : List Char :=
  if year < 0 then '-' :: padded 4 year.natAbs
  else if year ≤ 9999 then padded 4 year.toNat
  else '+' :: padded 4 year.toNat

/-- Year, month and day. -/
def isoChars (d : Date) : List Char :=
  yearChars d.year ++ '-' :: padded 2 d.month ++ '-' :: padded 2 d.day

def iso (d : Date) : String := String.ofList d.isoChars

/-- Day, month and year with a separator between them. -/
def dayFirst (separator : Char) (d : Date) : String :=
  String.ofList
    (padded 2 d.day ++ separator :: padded 2 d.month ++ separator :: yearChars d.year)

end Date

/-- A time of day, to the millisecond. -/
structure TimeOfDay where
  hour : Nat
  minute : Nat
  second : Nat
  milli : Nat
deriving DecidableEq, Inhabited

namespace TimeOfDay

def ofMillis (n : Nat) : TimeOfDay where
  hour := n / 3600000
  minute := n / 60000 % 60
  second := n / 1000 % 60
  milli := n % 1000

/-- Hours, minutes and seconds. -/
def clockChars (t : TimeOfDay) : List Char :=
  Date.padded 2 t.hour ++ ':' :: Date.padded 2 t.minute ++ ':' :: Date.padded 2 t.second

end TimeOfDay

/-- A date and a time of day. -/
structure Moment where
  date : Date
  time : TimeOfDay
deriving DecidableEq, Inhabited

namespace Moment

/-- Milliseconds in a day. -/
def dayLength : Int := 86400000

/-- The most milliseconds that a span of time can have, forwards or backwards. -/
def longestSpan : Int := Int.pow 2 63 - 1

/-- The moment `ms` milliseconds after 30 December 1899, when its year is one of the
calendar's. -/
def afterWorkbookEpoch? (ms : Int) : Option Moment :=
  let date := Date.ofDaysAfterMarch0 (ms / dayLength + 693899)
  if Date.minYear ≤ date.year ∧ date.year ≤ Date.maxYear then
    some { date, time := TimeOfDay.ofMillis (ms % dayLength).toNat }
  else none

/-- Date and time of day in universal time, with three places of seconds. -/
def timestamp (m : Moment) : String :=
  String.ofList
    (m.date.isoChars ++ 'T' :: m.time.clockChars ++ '.' :: Date.padded 3 m.time.milli ++ ['Z'])

end Moment

end SheetIntake
