import SheetIntake.Coercion
import SheetIntake.Proofs.Calendar.Agreement

/-! # Texts that are no dates

    The coercion writes every date that it can read as `isoChars` does and leaves every other text
    alone.  What it has written, it reads as the same date, for all years of the calendar and not
    only for those with four digits (`Notation.date?_isoChars`); so a second pass changes nothing
    (`date?_once`).

    The notations accept more than is documented: white space in front of a number, years with a
    sign or with less than four digits, and timestamps with single digits.  A text that is spelled
    in one of these ways becomes a date, although no documented notation writes it; it is
    *misread*, and only such texts are not left alone (`left_alone_iff_not_misread`). -/

namespace SheetIntake

/-! ## Reading what has been written -/

namespace Notation

theorem yearFigures_yearChars (year : Int) : YearFigures (Date.yearChars year) year := by
  have hvalue := Date.digitsValue_padded 4
  have hdigits : ∀ n, Digits 1 (Date.padded 4 n).length (Date.padded 4 n) := fun n =>
    (Date.digits_padded 4 n).mono (by decide) (Nat.le_refl _)
  unfold Date.yearChars
  split
  · have hnegative := YearFigures.negative (hdigits year.natAbs)
    rwa [hvalue, show -(year.natAbs : Int) = year by omega] at hnegative
  · split
    · have hfour : Digits 4 4 (Date.padded 4 year.toNat) :=
        Date.digits_padded_of_lt (by decide) (show _ < 10000 by omega)
      have hplain := YearFigures.plain (hfour.mono (by decide) (Nat.le_refl _))
      rwa [hvalue, Int.toNat_of_nonneg (by omega)] at hplain
    · have hpositive := YearFigures.positive (hdigits year.toNat)
      rwa [hvalue, Int.toNat_of_nonneg (by omega)] at hpositive

variable {d : Date}

/-- A written date is read as what it was. -/
theorem date?_isoChars (hd : d.Exists) : date? d.isoChars = some d := by
  have hmonth : Digits 1 2 (Date.padded 2 d.month) :=
    (Date.digits_padded_of_lt (by decide) hd.month_lt).mono (by decide) (Nat.le_refl _)
  have hday : Digits 1 2 (Date.padded 2 d.day) :=
    (Date.digits_padded_of_lt (by decide) hd.day_lt).mono (by decide) (Nat.le_refl _)
  have hspells := spellsDate_yearFirst (yearFigures_yearChars d.year) hmonth hday
  rw [Date.digitsValue_padded, Date.digitsValue_padded] at hspells
  have hread := date?_of_yearFirst (hspells hd)
  rwa [Date.isoChars, List.append_assoc, List.cons_append]

theorem solid_isoChars (d : Date) : Text.Solid d.isoChars := by
  have hpadded : ∀ width n, Text.Solid (Date.padded width n) := fun width n =>
    (Date.digits_padded width n).solid
  rw [Date.isoChars, List.append_assoc, List.cons_append]
  refine .append ?_ (.cons (by decide) (.append (hpadded _ _) (.cons (by decide) (hpadded _ _))))
  unfold Date.yearChars
  split
  · exact .cons (by decide) (hpadded _ _)
  · split
    · exact hpadded _ _
    · exact .cons (by decide) (hpadded _ _)

end Notation

theorem Date.clean_iso (d : Date) : Text.Clean d.iso := by
  refine Text.clean_of_solid ?_ ?_
  · rw [iso, String.toList_ofList, isoChars]
    simp
  · rw [iso, String.toList_ofList]
    exact Notation.solid_isoChars d

/-! ## What becomes of a text -/

namespace Coercion

variable {s t : String}

/-- A text that is spelled as a date becomes this date in writing, and every other text stays
as it is. -/
theorem date?_clean (hs : Text.Clean s) :
    date? s = some (((Notation.date? s.toList).map Date.iso).getD s) := by
  simp only [date?, text?, hs.trimmed?_eq, Option.map_some]

theorem date?_trim (full : Text.isBlank s = false) : date? s = date? (Text.trim s) := by
  have htrimmed : Text.trimmed? s = some (Text.trim s) := by
    rw [Text.trimmed?, full]
    rfl
  simp only [date?, text?, htrimmed, (Text.clean_trim full).trimmed?_eq]

theorem isBlank_of_date? (h : date? s = some t) : Text.isBlank s = false := by
  by_contra hblank
  have hnone : Text.trimmed? s = none := if_pos (by simpa using hblank)
  simp only [date?, text?, hnone, Option.map_none] at h
  cases h

/-- A written date stays as it is. -/
theorem date?_iso {d : Date} (hd : d.Exists) : date? d.iso = some d.iso := by
  rw [date?_clean d.clean_iso, Date.iso, String.toList_ofList, Notation.date?_isoChars hd]
  rfl

/-! ## A second pass -/

/-- What the coercion makes of a text, it leaves alone: a date that exists, in writing, of a text
that is spelled as this date, or the trimmed text, which is not spelled as any date. -/
theorem date?_once (h : date? s = some t) :
    date? t = some t ∧
      ((∃ n ∈ Notation.accepted, ∃ d : Date, Notation.SpellsDate n (Text.trim s).toList d ∧
          d.Exists ∧ t = d.iso) ∨
        (t = Text.trim s ∧ ∀ n ∈ Notation.accepted, ∀ d, ¬Notation.SpellsDate n t.toList d)) := by
  have full := isBlank_of_date? h
  rw [date?_trim full, date?_clean (Text.clean_trim full)] at h
  cases hread : Notation.date? (Text.trim s).toList with
  | some d =>
    obtain ⟨n, hn, hspells⟩ := Notation.exists_spells_of_date? hread
    rw [hread] at h
    obtain rfl : d.iso = t := Option.some.inj h
    exact ⟨date?_iso hspells.exists, .inl ⟨n, hn, d, hspells, hspells.exists, rfl⟩⟩
  | none =>
    rw [hread] at h
    obtain rfl : Text.trim s = t := Option.some.inj h
    refine ⟨?_, .inr ⟨rfl, Notation.date?_eq_none_iff.1 hread⟩⟩
    rw [date?_clean (Text.clean_trim full), hread]
    rfl

/-- A year with a sign, and a day that does not exist. -/
theorem signed_year_once :
    (date? " -44-3-15\t" = some "-0044-03-15" ∧ date? "-0044-03-15" = some "-0044-03-15") ∧
      date? " 29.02.2023" = some "29.02.2023" ∧ date? "29.02.2023" = some "29.02.2023" := by
  have hyear : date? " -44-3-15\t" = some "-0044-03-15" := by decide +kernel
  have hday : date? " 29.02.2023" = some "29.02.2023" := by decide +kernel
  exact ⟨⟨hyear, (date?_once hyear).1⟩, hday, (date?_once hday).1⟩

/-! ## Misread texts -/

/-- The text is spelled as a date, but neither in a documented way nor as dates are written. -/
structure Misread (cs : List Char) : Prop where
  spelled : ∃ n ∈ Notation.accepted, ∃ d, Notation.SpellsDate n cs d
  undocumented : ∀ d : Date, d.Exists → ¬Notation.Documented cs d
  unwritten : ∀ d : Date, d.Exists → d.isoChars ≠ cs

/-- Of the texts that no documented notation writes, exactly those are left alone that are not
misread. -/
theorem left_alone_iff_not_misread (full : Text.isBlank s = false)
    (undocumented : ∀ d : Date, d.Exists → ¬Notation.Documented (Text.trim s).toList d) :
    date? s = some (Text.trim s) ↔ ¬Misread (Text.trim s).toList := by
  rw [date?_trim full, date?_clean (Text.clean_trim full)]
  cases hread : Notation.date? (Text.trim s).toList with
  | none =>
    have hnone := Notation.date?_eq_none_iff.1 hread
    simp only [Option.map_none, Option.getD_none, true_iff]
    rintro ⟨⟨n, hn, d, hspells⟩, -, -⟩
    exact hnone n hn d hspells
  | some d =>
    obtain ⟨n, hn, hspells⟩ := Notation.exists_spells_of_date? hread
    simp only [Option.map_some, Option.getD_some, Option.some.injEq]
    constructor
    · intro hiso hmisread
      refine hmisread.unwritten d hspells.exists ?_
      rw [← hiso, Date.iso, String.toList_ofList]
    · intro hmisread
      by_contra hiso
      refine hmisread ⟨⟨n, hn, d, hspells⟩, undocumented, fun e he hchars => hiso ?_⟩
      -- A text that is a date in writing is read as this date.
      rw [← hchars, Notation.date?_isoChars he] at hread
      obtain rfl := Option.some.inj hread
      rw [Date.iso, hchars, String.ofList_toList]

/-- The day does not exist, though the text looks like a documented one. -/
theorem missing_day_left_alone :
    Text.isBlank " 30/02/2024" = false ∧ Text.trim " 30/02/2024" = "30/02/2024" ∧
      ¬Misread "30/02/2024".toList ∧ date? " 30/02/2024" = some "30/02/2024" := by
  have full : Text.isBlank " 30/02/2024" = false := by decide
  have htrim : Text.trim " 30/02/2024" = "30/02/2024" := by decide
  have hunread : Notation.date? "30/02/2024".toList = none := by decide +kernel
  have undocumented : ∀ d : Date, d.Exists →
      ¬Notation.Documented (Text.trim " 30/02/2024").toList d := by
    intro d hd hdocumented
    rw [htrim] at hdocumented
    rw [Notation.date?_documented hdocumented hd] at hunread
    cases hunread
  have hnotMisread : ¬Misread (Text.trim " 30/02/2024").toList := by
    rintro ⟨⟨n, hn, d, hspells⟩, -, -⟩
    rw [htrim] at hspells
    exact Notation.date?_eq_none_iff.1 hunread n hn d hspells
  have halone := (left_alone_iff_not_misread full undocumented).2 hnotMisread
  rw [htrim] at hnotMisread halone
  exact ⟨full, htrim, hnotMisread, halone⟩

/-- Dates with two digits for the year are no documented texts, and yet they are not left alone:
the day goes to the first century, and with hyphens it is even taken for the year. -/
theorem short_years_misread :
    (∀ d : Date, d.Exists → ¬Notation.Documented (Text.trim "1/2/24").toList d) ∧
      date? "1/2/24" = some "0024-02-01" ∧
      (∀ d : Date, d.Exists → ¬Notation.Documented (Text.trim "1-2-24").toList d) ∧
      date? "1-2-24" = some "0001-02-24" := by
  have hshort : ∀ s : String, (Text.trim s).toList.length < 8 →
      ∀ d : Date, d.Exists → ¬Notation.Documented (Text.trim s).toList d := by
    intro s hlength d _ hdocumented
    exact Nat.not_lt.2 hdocumented.length_ge hlength
  exact ⟨hshort _ (by decide), by decide +kernel, hshort _ (by decide), by decide +kernel⟩

end Coercion

end SheetIntake
