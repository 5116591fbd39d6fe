import SheetIntake.Coercion
import SheetIntake.Proofs.Number.Decimals
import SheetIntake.Proofs.Number.Grammar
import Mathlib.Data.Nat.Cast.Field

/-! # Integers in cells

    An integer is read through a double: the text is rounded to the double nearest its value, and
    that has to be an integer of 64 bits (`Coercion.integer?_eq_some_iff`).  So the integer that is
    read is the one that is written, except when rounding leads to an integer or away from one
    (`Coercion.read_exactly_iff_not_misrounded`).  That does not happen to integers of 53 bits, which
    are doubles (`Coercion.integer?_of_writes`), nor to fractions of fifteen digits, unless they are
    next to zero (`Coercion.readExactly_of_fifteen_digits`). -/

namespace SheetIntake

namespace Binary64

/-! ## Doubles that are integers -/

theorem signed_natCast_eq_intCast_iff {s : Bool} {k : ℕ} {n : ℤ} :
    signed s (k : ℚ) = n ↔ (if s then -(k : ℤ) else k) = n := by
  cases s with
  | false =>
    simp only [signed, Bool.false_eq_true, if_false]
    exact_mod_cast Iff.rfl
  | true =>
    simp only [signed, if_true]
    exact_mod_cast Iff.rfl

theorem eq_natAbs_of_signed_eq {s : Bool} {q : ℚ} {n : ℤ} (hq : 0 ≤ q) (h : signed s q = n) :
    q = n.natAbs := by
  have habs : |signed s q| = |(n : ℚ)| := by rw [h]
  rw [abs_signed, abs_of_nonneg hq] at habs
  rw [habs, Nat.cast_natAbs, Int.cast_abs]

theorem wholeQuotient_eq_some_iff {s : Bool} {a b : ℕ} {n : ℤ} (hb : 0 < b) :
    (if a % b = 0 then some (if s then -((a / b : ℕ) : ℤ) else (a / b : ℕ)) else none) = some n ↔
      signed s ((a : ℚ) / b) = n := by
  have hb' : (b : ℚ) ≠ 0 := by exact_mod_cast hb.ne'
  constructor
  · intro h
    obtain ⟨hmod, heq⟩ := Option.ite_none_right_eq_some.1 h
    rw [← Nat.cast_div (Nat.dvd_of_mod_eq_zero hmod) hb', signed_natCast_eq_intCast_iff]
    exact Option.some.inj heq
  · intro h
    have hquotient := eq_natAbs_of_signed_eq (by positivity) h
    rw [div_eq_iff hb'] at hquotient
    have hmul : a = n.natAbs * b := by exact_mod_cast hquotient
    have hmod : a % b = 0 := by
      rw [hmul]
      exact Nat.mul_mod_left ..
    rw [← Nat.cast_div (Nat.dvd_of_mod_eq_zero hmod) hb', signed_natCast_eq_intCast_iff] at h
    rw [if_pos hmod, h]

/-- A double is the integer that it stands for. -/
theorem toInt?_eq_some_iff {x : Binary64} {n : ℤ} :
    x.toInt? = some n ↔ x.value? = some (n : ℚ) := by
  cases x with
  | nan => simp [toInt?, value?]
  | infinite s => simp [toInt?, value?]
  | finite s m e =>
    rw [toInt?, value?, Option.some.injEq, ← ratio_div]
    exact wholeQuotient_eq_some_iff (ratio_pos m e)

end Binary64

open Binary64 (IsDouble Nearest)

/-! ## Written numbers -/

/-- The text is a numeral and says the number. -/
def Writes (s : String) (q : ℚ) : Prop := ∃ a, Numeral.Spelled s.toList a ∧ a.value = q

theorem writes_iff {s : String} {q : ℚ} :
    Writes s q ↔ ∃ a, NumberText.parse? s = some (.numeral a) ∧ a.value = q := by
  simp only [Writes, NumberText.parse?_eq_numeral_iff]

theorem Writes.unique {s : String} {q r : ℚ} (hq : Writes s q) (hr : Writes s r) : q = r := by
  obtain ⟨a, ha, rfl⟩ := writes_iff.1 hq
  obtain ⟨b, hb, rfl⟩ := writes_iff.1 hr
  rw [ha] at hb
  obtain rfl := NumberText.numeral.inj (Option.some.inj hb)
  rfl

theorem writes_intCast_iff {s : String} {a : Numeral} {n : ℤ}
    (h : NumberText.parse? s = some (.numeral a)) : Writes s n ↔ a.Denotes n := by
  rw [Numeral.denotes_iff]
  have hwrites : Writes s a.value := writes_iff.2 ⟨a, h, rfl⟩
  constructor
  · exact hwrites.unique
  · intro hvalue
    rwa [hvalue] at hwrites

namespace Coercion

theorem isFinite_of_toInt? {x : Binary64} {n : ℤ} (h : x.toInt? = some n) : x.isFinite = true := by
  cases x with
  | nan => cases h
  | infinite => cases h
  | finite => rfl

/-- Names of numbers are no integers. -/
theorem exists_numeral_of_toInt? {t : NumberText} {n : ℤ} (h : t.toBinary64.toInt? = some n) :
    ∃ a, t = .numeral a := by
  cases t with
  | numeral a => exact ⟨a, rfl⟩
  | infinity => cases h
  | nan => cases h

/-- The integer is read off a text just when the number that the text writes is rounded to it and it
is not too large. -/
theorem integer?_eq_some_iff {s : String} {n : ℤ} :
    integer? s = some n ↔
      ∃ q, Writes (Text.trim s) q ∧ Nearest q n ∧ n.natAbs < integerBound := by
  unfold integer? number? Binary64.parse?
  rw [Option.filter_eq_some_iff, Option.bind_eq_some_iff, decide_eq_true_iff]
  constructor
  · rintro ⟨⟨x, hx, hn⟩, hbound⟩
    obtain ⟨hmap, -⟩ := Option.filter_eq_some_iff.1 hx
    obtain ⟨t, hparse, rfl⟩ := Option.map_eq_some_iff.1 hmap
    obtain ⟨a, rfl⟩ := exists_numeral_of_toInt? hn
    rw [NumberText.toBinary64, Binary64.toInt?_eq_some_iff,
      Numeral.value?_toBinary64_eq_some_iff] at hn
    have hwrites : Writes (Text.trim s) a.value := writes_iff.2 ⟨a, hparse, rfl⟩
    exact ⟨a.value, hwrites, hn, hbound⟩
  · rintro ⟨q, hwrites, hnearest, hbound⟩
    obtain ⟨a, hparse, rfl⟩ := writes_iff.1 hwrites
    have hn : a.toBinary64.toInt? = some n := by
      rw [Binary64.toInt?_eq_some_iff, Numeral.value?_toBinary64_eq_some_iff]
      exact hnearest
    refine ⟨⟨a.toBinary64, ?_, hn⟩, hbound⟩
    rw [Option.filter_eq_some_iff, hparse]
    exact ⟨rfl, isFinite_of_toInt? hn⟩

/-! ## Integers that are read exactly -/

/-- The text writes a number that is no double, and the number or what it is rounded to is an
integer that is not too large. -/
def Misrounded (s : String) : Prop :=
  ∃ (q : ℚ) (n : ℤ), Writes s q ∧ ¬ IsDouble q ∧ n.natAbs < integerBound ∧ (q = n ∨ Nearest q n)

/-- The text is read as the integer that it writes, and as none if it writes none or one that is too
large. -/
def ReadExactly (s : String) : Prop :=
  ∀ n : ℤ, integer? s = some n ↔ Writes (Text.trim s) n ∧ n.natAbs < integerBound

/-- The integer that is read is what the written number is rounded to.  So a text is read exactly
unless rounding makes an integer of another number or another number of an integer. -/
theorem read_exactly_iff_not_misrounded (s : String) :
    (∀ n : ℤ, integer? s = some n ↔
      ∃ q, Writes (Text.trim s) q ∧ Nearest q n ∧ n.natAbs < integerBound) ∧
    (ReadExactly s ↔ ¬ Misrounded (Text.trim s)) := by
  refine ⟨fun n => integer?_eq_some_iff, ?_, ?_⟩
  · rintro hexact ⟨q, n, hwrites, hdouble, hbound, rfl | hnearest⟩
    · -- the integer that is written is read, so it is a double
      obtain ⟨r, hr, hnearest, -⟩ := integer?_eq_some_iff.1 ((hexact n).2 ⟨hwrites, hbound⟩)
      exact hdouble hnearest.isDouble
    · -- the integer that is read is written, so it is what is rounded
      have hread : integer? s = some n := integer?_eq_some_iff.2 ⟨q, hwrites, hnearest, hbound⟩
      have hq : q = n := hwrites.unique ((hexact n).1 hread).1
      rw [hq] at hdouble
      exact hdouble hnearest.isDouble
  · intro hrounded n
    rw [integer?_eq_some_iff]
    constructor
    · rintro ⟨q, hwrites, hnearest, hbound⟩
      by_cases hdouble : IsDouble q
      · have hq : q = n := hdouble.nearest.unique hnearest
        rw [← hq]
        exact ⟨hwrites, hbound⟩
      · exact absurd ⟨q, n, hwrites, hdouble, hbound, .inr hnearest⟩ hrounded
    · rintro ⟨hwrites, hbound⟩
      by_cases hdouble : IsDouble n
      · exact ⟨n, hwrites, hdouble.nearest, hbound⟩
      · exact absurd ⟨n, n, hwrites, hdouble, hbound, .inl rfl⟩ hrounded

/-- A number next to one is taken for one, and an integer of 54 bits for the one before. -/
theorem close_numbers_misread :
    (integer? "0.99999999999999999999" = some 1 ∧
      ¬ Writes (Text.trim "0.99999999999999999999") (1 : ℤ)) ∧
    (integer? "9007199254740993" = some 9007199254740992 ∧
      Writes (Text.trim "9007199254740993") (9007199254740993 : ℤ)) := by
  have hfraction : NumberText.parse? (Text.trim "0.99999999999999999999") =
      some (.numeral ⟨false, 99999999999999999999, -20⟩) := by decide +kernel
  have hlarge : NumberText.parse? (Text.trim "9007199254740993") =
      some (.numeral ⟨false, 9007199254740993, 0⟩) := by decide +kernel
  rw [writes_intCast_iff hfraction, writes_intCast_iff hlarge]
  unfold Numeral.Denotes
  refine ⟨⟨?_, by decide⟩, ?_, by decide⟩
  · decide +kernel
  · decide +kernel

/-- An integer of at most 53 bits is read. -/
theorem integer?_of_writes {s : String} {n : ℤ} (hn : n.natAbs ≤ 2 ^ 53)
    (h : Writes (Text.trim s) n) : integer? s = some n := by
  refine integer?_eq_some_iff.2 ⟨n, h, (Binary64.isDouble_intCast hn).nearest, ?_⟩
  exact hn.trans_lt (by decide)

/-- A numeral of fifteen digits at most is read exactly, if its exponent does not make it larger or
bring it next to zero. -/
theorem readExactly_of_fifteen_digits {s : String} {a : Numeral}
    (h : Numeral.Spelled (Text.trim s).toList a) (hdigits : a.coefficient < 10 ^ 15)
    (hleast : -300 ≤ a.exponent) (hgreatest : a.exponent ≤ 0) : ReadExactly s := by
  have hwrites : Writes (Text.trim s) a.value := ⟨a, h, rfl⟩
  intro n
  constructor
  · intro hread
    obtain ⟨q, hq, hnearest, hbound⟩ := integer?_eq_some_iff.1 hread
    rw [hq.unique hwrites] at hnearest
    have hvalue : a.value = n := Numeral.value_eq_of_nearest hdigits hleast hgreatest hnearest
    rw [hvalue] at hwrites
    exact ⟨hwrites, hbound⟩
  · rintro ⟨hn, -⟩
    have hvalue : a.value = n := hwrites.unique hn
    have habs := Numeral.abs_value_le hgreatest
    rw [hvalue, ← Int.cast_abs, Int.abs_eq_natAbs] at habs
    have hnat : n.natAbs ≤ a.coefficient := by exact_mod_cast habs
    exact integer?_of_writes (hnat.trans (hdigits.le.trans (by decide))) hn

end Coercion

end SheetIntake
