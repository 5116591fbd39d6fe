import SheetIntake.Coercion
import SheetIntake.Proofs.Calendar.DayNumber
import SheetIntake.Proofs.Calendar.Documented
import SheetIntake.Workbook.Cell

/-! # All ways to write a day agree

    A day of a year with four digits can be written year first, day first and as a timestamp, and
    a cell of a workbook may hold a moment of it, which is shown as a timestamp in universal time
    (`Date.WrittenAs`).  All of them are documented texts with the day as their date
    (`Date.WrittenAs.documented`), so the coercion makes the same text of them, whatever white
    space stands around them (`writings_agree`). -/

namespace SheetIntake

open Notation (Clock Documented Fraction Offset YearFigures)

/-! ## Written dates -/

namespace Date

section
variable {d : Date}

theorem Exists.month_lt (h : d.Exists) : d.month < 100 := by
  obtain ⟨-, -, -, hmonth, -⟩ := h
  omega

theorem daysIn_le (year : Int) (month : Nat) : daysIn year month ≤ 31 := by
  unfold daysIn
  split
  · split <;> omega
  · split
    · omega
    · split <;> omega

theorem Exists.day_lt (h : d.Exists) : d.day < 100 := by
  obtain ⟨-, -, -, -, -, hday⟩ := h
  have hdays := daysIn_le d.year d.month
  omega

theorem yearChars_of_plain (hmin : 0 ≤ d.year) (hmax : d.year ≤ 9999) :
    yearChars d.year = padded 4 d.year.toNat := by
  rw [yearChars, if_neg (by omega), if_pos hmax]

/-- The text is the date in full: four digits for the year and two for month and day. -/
def InFull (d : Date) (s : String) : Prop :=
  ∃ y m n : List Char, Digits 4 4 y ∧ Digits 2 2 m ∧ Digits 2 2 n ∧
    s.toList = y ++ '-' :: (m ++ '-' :: n) ∧ d = ⟨digitsValue y, digitsValue m, digitsValue n⟩

theorem eq_digitsValues (hmin : 0 ≤ d.year) :
    d = ⟨digitsValue (padded 4 d.year.toNat), digitsValue (padded 2 d.month),
      digitsValue (padded 2 d.day)⟩ := by
  rw [digitsValue_padded, digitsValue_padded, digitsValue_padded, Int.toNat_of_nonneg hmin]

variable (hd : d.Exists) (hmin : 0 ≤ d.year) (hmax : d.year ≤ 9999)
include hmin hmax

theorem digits_year : Digits 4 4 (padded 4 d.year.toNat) :=
  digits_padded_of_lt (by decide) (show _ < 10000 by omega)

include hd

theorem inFull_iso : d.InFull d.iso := by
  refine ⟨_, _, _, digits_year hmin hmax, digits_padded_of_lt (by decide) hd.month_lt,
    digits_padded_of_lt (by decide) hd.day_lt, ?_, eq_digitsValues hmin⟩
  rw [iso, String.toList_ofList, isoChars, yearChars_of_plain hmin hmax, List.append_assoc,
    List.cons_append]

end

end Date

/-! ## Times of day -/

namespace TimeOfDay

/-- A clock can show the time, a leap second included. -/
def OnClock (t : TimeOfDay) : Prop := t.hour ≤ 23 ∧ t.minute ≤ 59 ∧ t.second ≤ 60

instance : DecidablePred OnClock := fun t =>
  inferInstanceAs (Decidable (t.hour ≤ 23 ∧ _))

theorem OnClock.clock {t : TimeOfDay} (h : t.OnClock) : Clock t.clockChars := by
  obtain ⟨hhour, hminute, hsecond⟩ := h
  rw [clockChars, List.append_assoc, List.cons_append]
  refine .shown (Date.digits_padded_of_lt (by decide) (show _ < 100 by omega))
    (Date.digits_padded_of_lt (by decide) (show _ < 100 by omega))
    (Date.digits_padded_of_lt (by decide) (show _ < 100 by omega)) ?_
  simp only [Date.digitsValue_padded]
  exact ⟨hhour, hminute, hsecond⟩

theorem onClock_ofMillis {n : Nat} (h : n < 86400000) : (ofMillis n).OnClock := by
  show n / 3600000 ≤ 23 ∧ n / 60000 % 60 ≤ 59 ∧ n / 1000 % 60 ≤ 60
  omega

end TimeOfDay

/-! ## Moments of cells -/

namespace Moment

theorem afterWorkbookEpoch?_eq_some {ms : Int} {m : Moment}
    (h : afterWorkbookEpoch? ms = some m) : m.date.Exists ∧ m.time.OnClock := by
  obtain ⟨⟨hmin, hmax⟩, heq⟩ := Option.ite_none_right_eq_some.1 h
  obtain rfl := Option.some.inj heq
  refine ⟨Date.exists_ofDaysAfterMarch0 hmin hmax, TimeOfDay.onClock_ofMillis ?_⟩
  have hmod : ms % 86400000 < 86400000 := Int.emod_lt_of_pos ms (by decide)
  rw [dayLength]
  omega

end Moment

namespace Cell

variable {from1904 : Bool} {serial : Binary64} {m : Moment}

theorem le_roundToInt64 (x : Binary64) : -Int.pow 2 63 ≤ x.roundToInt64 := by
  cases x with
  | nan => decide
  | infinite s => cases s <;> decide
  | finite s mantissa exponent =>
    have hzero : -Int.pow 2 63 ≤ 0 := by decide
    simp only [Binary64.roundToInt64]
    split
    · exact Int.le_max_left ..
    · exact Int.le_min.2 ⟨by decide, Int.le_trans hzero (Int.natCast_nonneg _)⟩

/-- A cell with a moment has a text. -/
theorem overflows_of_moment? (h : moment? from1904 serial = some m) :
    (moment from1904 serial).overflows = false := by
  by_contra hover
  have hless : millis from1904 serial < -Moment.longestSpan := by
    simpa [overflows] using hover
  have hleast : -Int.pow 2 63 ≤ millis from1904 serial := le_roundToInt64 _
  have hmillis : millis from1904 serial = -Int.pow 2 63 := by
    rw [Moment.longestSpan] at hless
    omega
  have hnone : Moment.afterWorkbookEpoch? (-Int.pow 2 63) = none := by decide
  rw [moment?, hmillis, hnone] at h
  cases h

theorem toText_moment (h : moment? from1904 serial = some m) :
    (moment from1904 serial).toText = m.timestamp := by
  simp only [toText, h]

end Cell

/-! ## Writings of a day -/

/-- The text writes the day. -/
inductive Date.WrittenAs (d : Date) : String → Prop where
  | yearFirst : d.WrittenAs d.iso
  | dayFirst {separator : Char} (h : separator = '/' ∨ separator = '-') :
      d.WrittenAs (d.dayFirst separator)
  | timestamp {t : TimeOfDay} {fraction offset : List Char} (ht : t.OnClock)
      (hfraction : Fraction fraction) (hoffset : offset = [] ∨ Offset offset) :
      d.WrittenAs (String.ofList (d.isoChars ++ 'T' :: (t.clockChars ++ fraction ++ offset)))
  | cell {from1904 : Bool} {serial : Binary64} {m : Moment}
      (h : Cell.moment? from1904 serial = some m) (hm : m.date = d) :
      d.WrittenAs (Cell.moment from1904 serial).toText

namespace Date

variable {d : Date} {s : String} (hd : d.Exists) (hmin : 0 ≤ d.year) (hmax : d.year ≤ 9999)
include hd hmin hmax

theorem documented_timestamp {clock fraction offset : List Char} (hclock : Clock clock)
    (hfraction : Fraction fraction) (hoffset : offset = [] ∨ Offset offset) :
    Documented (d.isoChars ++ 'T' :: (clock ++ fraction ++ offset)) d := by
  have hdocumented := Documented.timestamp (digits_year hmin hmax)
    (digits_padded_of_lt (by decide) hd.month_lt) (digits_padded_of_lt (by decide) hd.day_lt)
    hclock hfraction hoffset
  rw [← eq_digitsValues hmin, ← yearChars_of_plain hmin hmax] at hdocumented
  simpa only [isoChars, List.append_assoc, List.cons_append] using hdocumented

theorem WrittenAs.documented (h : d.WrittenAs s) : Documented s.toList d := by
  have hyear := digits_year hmin hmax
  have hmonth : Digits 2 2 (padded 2 d.month) := digits_padded_of_lt (by decide) hd.month_lt
  have hday : Digits 2 2 (padded 2 d.day) := digits_padded_of_lt (by decide) hd.day_lt
  have hmonth' : Digits 1 2 (padded 2 d.month) := hmonth.mono (by decide) (Nat.le_refl _)
  have hday' : Digits 1 2 (padded 2 d.day) := hday.mono (by decide) (Nat.le_refl _)
  cases h with
  | yearFirst =>
    have hdocumented := Documented.yearFirst hyear hmonth' hday'
    rw [← eq_digitsValues hmin, ← yearChars_of_plain hmin hmax] at hdocumented
    simpa only [iso, String.toList_ofList, isoChars, List.append_assoc, List.cons_append]
      using hdocumented
  | dayFirst hseparator =>
    have hdocumented := Documented.dayFirst hseparator hyear hmonth' hday'
    rw [← eq_digitsValues hmin, ← yearChars_of_plain hmin hmax] at hdocumented
    simpa only [Date.dayFirst, String.toList_ofList, List.append_assoc, List.cons_append]
      using hdocumented
  | timestamp ht hfraction hoffset =>
    rw [String.toList_ofList]
    exact documented_timestamp hd hmin hmax ht.clock hfraction hoffset
  | @cell _ _ m hmoment hm =>
    subst hm
    obtain ⟨-, htime⟩ := Moment.afterWorkbookEpoch?_eq_some hmoment
    have hmillis : Digits 1 (padded 3 m.time.milli).length (padded 3 m.time.milli) :=
      (digits_padded 3 _).mono (by decide) (Nat.le_refl _)
    have hdocumented := documented_timestamp hd hmin hmax htime.clock (.present hmillis)
      (.inr (.universal (c := 'Z') (.inl rfl)))
    rw [Cell.toText_moment hmoment, Moment.timestamp, String.toList_ofList]
    simpa only [List.append_assoc, List.cons_append] using hdocumented

end Date

/-! ## Agreement -/

theorem Coercion.date?_around {s before after : String} {d : Date} (hs : Text.Clean s)
    (hbefore : Text.isBlank before = true) (hafter : Text.isBlank after = true)
    (h : Notation.date? s.toList = some d) : date? (before ++ s ++ after) = some d.iso := by
  simp only [date?, text?, Text.trimmed?_around hs hbefore hafter, Option.map_some, h,
    Option.getD_some]

/-- Whichever way a day of a year with four digits is written, and whatever white space stands
around it, the coercion gives the day in full.  A cell with a moment always has a text, and the day
of the moment exists. -/
theorem writings_agree {d : Date} (hd : d.Exists) (hyear : 0 ≤ d.year ∧ d.year ≤ 9999)
    {s before after : String} (hs : d.WrittenAs s) (hbefore : Text.isBlank before = true)
    (hafter : Text.isBlank after = true) :
    (Coercion.date? (before ++ s ++ after) = some d.iso ∧ d.InFull d.iso) ∧
      ∀ from1904 serial m, Cell.moment? from1904 serial = some m →
        (Cell.moment from1904 serial).overflows = false ∧ m.date.Exists := by
  obtain ⟨hmin, hmax⟩ := hyear
  have hdocumented := hs.documented hd hmin hmax
  have hread := Notation.date?_documented hdocumented hd
  refine ⟨⟨Coercion.date?_around hdocumented.clean hbefore hafter hread,
    Date.inFull_iso hd hmin hmax⟩, fun from1904 serial m hmoment => ?_⟩
  exact ⟨Cell.overflows_of_moment? hmoment, (Moment.afterWorkbookEpoch?_eq_some hmoment).1⟩

/-- The serial number 45351.5, which is noon of a leap day. -/
def leapDayNoon : Binary64 := .finite false (90703 * 2 ^ 36) (-37)

/-- A leap day with an offset that puts the moment on the next day, and in a cell. -/
theorem leap_day_agrees :
    let d : Date := ⟨2024, 2, 29⟩
    d.Exists ∧ (0 ≤ d.year ∧ d.year ≤ 9999) ∧ d.WrittenAs "2024-02-29T23:30:00.5-05:00" ∧
      d.WrittenAs (Cell.moment false leapDayNoon).toText ∧
      Text.isBlank "\u00A0" = true ∧ Text.isBlank "\t" = true ∧
      Coercion.date? ("\u00A0" ++ "2024-02-29T23:30:00.5-05:00" ++ "\t") = some "2024-02-29" ∧
      Coercion.date? ("\u00A0" ++ (Cell.moment false leapDayNoon).toText ++ "\t") =
        some "2024-02-29" := by
  intro d
  have hd : d.Exists := by decide
  have hyear : 0 ≤ d.year ∧ d.year ≤ 9999 := by decide
  have hbefore : Text.isBlank "\u00A0" = true := by decide
  have hafter : Text.isBlank "\t" = true := by decide
  have hstamp : d.WrittenAs "2024-02-29T23:30:00.5-05:00" := by
    have htime : TimeOfDay.OnClock ⟨23, 30, 0, 0⟩ := by decide
    have hfraction : Fraction ['.', '5'] := .present (by decide)
    have hoffset : Offset ('-' :: (['0', '5'] ++ ':' :: ['0', '0'])) :=
      .clock (by decide) (by decide) (by decide) (by decide)
    have hchars : "2024-02-29T23:30:00.5-05:00" = String.ofList (d.isoChars ++
        'T' :: (TimeOfDay.clockChars ⟨23, 30, 0, 0⟩ ++ ['.', '5'] ++
          ['-', '0', '5', ':', '0', '0'])) := by decide
    rw [hchars]
    exact .timestamp htime hfraction (.inr hoffset)
  have hcell : d.WrittenAs (Cell.moment false leapDayNoon).toText :=
    .cell (m := ⟨d, ⟨12, 0, 0, 0⟩⟩) (by decide +kernel) rfl
  have hiso : d.iso = "2024-02-29" := by decide
  rw [← hiso]
  exact ⟨hd, hyear, hstamp, hcell, hbefore, hafter,
    (writings_agree hd hyear hstamp hbefore hafter).1.1,
    (writings_agree hd hyear hcell hbefore hafter).1.1⟩

end SheetIntake
