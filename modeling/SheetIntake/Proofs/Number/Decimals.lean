import SheetIntake.Number.Numeral
import SheetIntake.Proofs.Number.Digits
import SheetIntake.Proofs.Number.Rounding

/-! # Decimal numbers

    The double of a decimal number is the nearest one, also where the power of ten is not computed:
    such a number is out of range or nearest zero (`Binary64.value?_ofDecimal_eq_some_iff`).  A
    numeral with fifteen digits is nearest an integer only if it says this integer
    (`Numeral.value_eq_of_nearest`): in its last place it is too far from all others. -/

namespace SheetIntake

namespace Binary64

/-! ## Rounding decimal numbers -/

/-- The doubles other than zero are at least as far from zero as the least one. -/
theorem le_abs_of_isDouble {w : ℚ} (hw : IsDouble w) (hne : w ≠ 0) : 2 ^ minExponent ≤ |w| := by
  obtain ⟨m, e, hfits, rfl⟩ := hw
  have hm : (1 : ℚ) ≤ |(m : ℚ)| := by
    have hm0 : m ≠ 0 := fun hzero => hne (by rw [hzero, Int.cast_zero, zero_mul])
    exact_mod_cast Int.one_le_abs hm0
  have he : (0 : ℚ) < 2 ^ e := by positivity
  calc (2 : ℚ) ^ minExponent ≤ 2 ^ e := zpow_le_zpow_right₀ one_le_two hfits.least
    _ ≤ |(m : ℚ)| * 2 ^ e := le_mul_of_one_le_left he.le hm
    _ = |(m : ℚ) * 2 ^ e| := by rw [abs_mul, abs_of_pos he]

/-- A number of less than half the least double is nearest zero. -/
theorem nearest_zero {q : ℚ} (h : |q| < 2 ^ (minExponent - 1)) : Nearest q 0 := by
  have hleast : (2 : ℚ) ^ minExponent = 2 * 2 ^ (minExponent - 1) := by
    rw [← zpow_one_add₀ two_ne_zero]
    congr 1
  have hcloser : ∀ w, IsDouble w → w ≠ 0 → |0 - q| < |w - q| := by
    intro w hw hne
    have hfar := le_abs_of_isDouble hw hne
    have htriangle := abs_sub_abs_le_abs_sub w q
    rw [zero_sub, abs_neg]
    linarith
  refine ⟨?_, isDouble_zero, fun w hw => ?_, fun w hw heq => ?_⟩
  · have hbound : (2 : ℚ) ^ (minExponent - 1) ≤ 2 ^ maxExponent :=
      zpow_le_zpow_right₀ one_le_two (by decide)
    have hmax : (0 : ℚ) < 2 ^ maxExponent := by positivity
    rw [overflowBound]
    linarith
  · by_cases hw0 : w = 0
    · rw [hw0]
    · exact (hcloser w hw hw0).le
  · by_contra hne
    have hw0 : w ≠ 0 := fun hw0 => hne (.inl hw0.symm)
    exact absurd heq (hcloser w hw hw0).ne

theorem two_zpow_le_ten_zpow : (2 : ℚ) ^ (1200 : ℤ) ≤ 10 ^ (400 : ℤ) := by
  have hsplit : (1200 : ℤ) = 3 * 400 := by norm_num
  rw [hsplit, zpow_mul]
  exact zpow_le_zpow_left₀ (by norm_num) (by norm_num) (by norm_num)

theorem overflowBound_le : overflowBound ≤ 10 ^ (400 : ℤ) := by
  calc overflowBound ≤ 2 ^ 53 * 2 ^ maxExponent :=
        mul_le_mul_of_nonneg_right (by norm_num) (by positivity)
    _ = 2 ^ (53 + maxExponent) := by rw [zpow_add₀ two_ne_zero, zpow_ofNat]
    _ ≤ 2 ^ (1200 : ℤ) := zpow_le_zpow_right₀ one_le_two (by decide)
    _ ≤ 10 ^ (400 : ℤ) := two_zpow_le_ten_zpow

theorem ten_zpow_lt : (10 : ℚ) ^ (-400 : ℤ) < 2 ^ (minExponent - 1) := by
  calc (10 : ℚ) ^ (-400 : ℤ) = (10 ^ (400 : ℤ))⁻¹ := zpow_neg ..
    _ ≤ (2 ^ (1200 : ℤ))⁻¹ := inv_anti₀ (by positivity) two_zpow_le_ten_zpow
    _ = 2 ^ (-1200 : ℤ) := (zpow_neg ..).symm
    _ < 2 ^ (minExponent - 1) := zpow_lt_zpow_right₀ one_lt_two (by decide)

theorem two_zpow_minExponent_le : (2 : ℚ) ^ minExponent ≤ 10 ^ (-300 : ℤ) := by
  have hten : (10 : ℚ) ^ (300 : ℤ) ≤ 2 ^ (1000 : ℤ) := by
    have hsplit : (300 : ℤ) = 3 * 100 := by norm_num
    have hsplit' : (1000 : ℤ) = 10 * 100 := by norm_num
    rw [hsplit, hsplit', zpow_mul, zpow_mul]
    exact zpow_le_zpow_left₀ (by norm_num) (by norm_num) (by norm_num)
  calc (2 : ℚ) ^ minExponent ≤ 2 ^ (-1000 : ℤ) :=
        zpow_le_zpow_right₀ one_le_two (by decide)
    _ = (2 ^ (1000 : ℤ))⁻¹ := zpow_neg ..
    _ ≤ (10 ^ (300 : ℤ))⁻¹ := inv_anti₀ (by positivity) hten
    _ = 10 ^ (-300 : ℤ) := (zpow_neg ..).symm

/-- The length of a positive number in digits tells the number but for a factor of ten. -/
theorem length_toDigits_bounds {c : ℕ} (hc : 0 < c) :
    let width : ℤ := (Nat.toDigits 10 c).length
    (10 : ℚ) ^ (width - 1) ≤ c ∧ (c : ℚ) < 10 ^ width := by
  intro width
  have hpos : 0 < (Nat.toDigits 10 c).length := Nat.length_toDigits_pos
  obtain ⟨w, hw⟩ : ∃ w, (Nat.toDigits 10 c).length = w + 1 :=
    Nat.exists_eq_succ_of_ne_zero hpos.ne'
  have hwidth : width = w + 1 := congrArg Nat.cast hw
  have hlow : 10 ^ w ≤ c := by
    by_contra hless
    rcases Nat.eq_zero_or_pos w with rfl | hw0
    · rw [pow_zero] at hless
      omega
    · have hshort := (Nat.length_toDigits_le_iff (by decide) hw0).2 (not_le.1 hless)
      omega
  have hhigh : c < 10 ^ (w + 1) :=
    (Nat.length_toDigits_le_iff (by decide) (by omega)).1 hw.le
  rw [hwidth, add_sub_cancel_right, zpow_natCast]
  exact ⟨by exact_mod_cast hlow, by exact_mod_cast hhigh⟩

section
variable {c : ℕ} (hc : 0 < c) {k : ℤ}
include hc

theorem overflowBound_le_of_wide (h : 400 < (Nat.toDigits 10 c).length + k) :
    overflowBound ≤ c * 10 ^ k := by
  obtain ⟨hlow, -⟩ := length_toDigits_bounds hc
  calc overflowBound ≤ 10 ^ (400 : ℤ) := overflowBound_le
    _ ≤ 10 ^ ((Nat.toDigits 10 c).length - 1 + k) := zpow_le_zpow_right₀ (by norm_num) (by omega)
    _ = 10 ^ ((Nat.toDigits 10 c).length - 1 : ℤ) * 10 ^ k := zpow_add₀ (by norm_num) ..
    _ ≤ c * 10 ^ k := mul_le_mul_of_nonneg_right hlow (by positivity)

theorem lt_of_narrow (h : (Nat.toDigits 10 c).length + k < -400) :
    (c : ℚ) * 10 ^ k < 2 ^ (minExponent - 1) := by
  obtain ⟨-, hhigh⟩ := length_toDigits_bounds hc
  calc (c : ℚ) * 10 ^ k < 10 ^ ((Nat.toDigits 10 c).length : ℤ) * 10 ^ k :=
        mul_lt_mul_of_pos_right hhigh (by positivity)
    _ = 10 ^ ((Nat.toDigits 10 c).length + k) := (zpow_add₀ (by norm_num) ..).symm
    _ ≤ 10 ^ (-400 : ℤ) := zpow_le_zpow_right₀ (by norm_num) (by omega)
    _ < 2 ^ (minExponent - 1) := ten_zpow_lt

end

theorem value?_zero_eq_some_iff {s : Bool} {q v : ℚ} (h : Nearest q 0) :
    (zero s).value? = some v ↔ Nearest q v := by
  have hvalue : (zero s).value? = some 0 := by
    rw [zero, value?, Nat.cast_zero, zero_mul, signed_zero]
  rw [hvalue, Option.some.injEq]
  constructor
  · rintro rfl
    exact h
  · exact fun hv => h.unique hv

/-- The double of a decimal number stands for the nearest number that is one.  The numbers for which
no power of ten is computed are out of range or next to zero. -/
theorem value?_ofDecimal_eq_some_iff {s : Bool} {c : ℕ} {k : ℤ} {v : ℚ} :
    (ofDecimal s c k).value? = some v ↔ Nearest (signed s (c * 10 ^ k)) v := by
  unfold ofDecimal
  dsimp only
  rcases Nat.eq_zero_or_pos c with rfl | hc
  · rw [if_pos rfl, Nat.cast_zero, zero_mul, signed_zero]
    exact value?_zero_eq_some_iff isDouble_zero.nearest
  · have habs : |signed s (c * 10 ^ k)| = (c : ℚ) * 10 ^ k := by
      rw [abs_signed, abs_of_nonneg (by positivity)]
    rw [if_neg hc.ne']
    split
    · next hwide =>
      -- an infinity stands for no number, and no double is nearest a number out of range
      have hmore := overflowBound_le_of_wide hc hwide
      rw [← habs] at hmore
      constructor
      · intro h
        cases h
      · intro h
        exact absurd h.inRange (not_lt.2 hmore)
    · split
      · next hnarrow =>
        have hless := lt_of_narrow hc hnarrow
        rw [← habs] at hless
        exact value?_zero_eq_some_iff (nearest_zero hless)
      · have hden : 0 < Nat.pow 10 (-k).toNat := Nat.pow_pos (by decide)
        rw [value?_ofRatio_eq_some_iff hden, zpow_eq_div (by norm_num) k, mul_div_assoc']
        push_cast [Nat.pow_eq]
        rfl

theorem isCanonical_ofDecimal (s : Bool) (c : ℕ) (k : ℤ) : (ofDecimal s c k).IsCanonical := by
  unfold ofDecimal
  dsimp only
  split
  · exact isCanonical_zero s
  · split
    · trivial
    · split
      · exact isCanonical_zero s
      · exact isCanonical_ofRatio s _ (Nat.pow_pos (by decide))

/-- A double that is read is in canonical form. -/
theorem isCanonical_parse? {s : String} {x : Binary64} (h : parse? s = some x) :
    x.IsCanonical := by
  obtain ⟨t, -, rfl⟩ := Option.map_eq_some_iff.1 h
  cases t with
  | numeral a => exact isCanonical_ofDecimal ..
  | infinity => trivial
  | nan => trivial

end Binary64

open Binary64 (IsDouble Nearest)

namespace Numeral

/-! ## Values of numerals -/

/-- The number that a numeral says. -/
def value (a : Numeral) : ℚ := Binary64.signed a.negative (a.coefficient * 10 ^ a.exponent)

variable (a : Numeral)

/-- The digits of a numeral as one integer. -/
def significand : ℤ := if a.negative then -a.coefficient else a.coefficient

theorem value_eq : a.value = a.significand * 10 ^ a.exponent := by
  unfold value significand Binary64.signed
  split
  · push_cast
    ring
  · push_cast
    rfl

theorem abs_value : |a.value| = a.coefficient * 10 ^ a.exponent := by
  rw [value, Binary64.abs_signed, abs_of_nonneg (by positivity)]

theorem denotes_iff {n : ℤ} : a.Denotes n ↔ a.value = n := by
  have hten : (10 : ℚ) ^ (-a.exponent).toNat ≠ 0 := by positivity
  rw [value_eq, Binary64.zpow_eq_div (by norm_num) a.exponent, ← mul_div_assoc, div_eq_iff hten]
  unfold Denotes significand
  norm_cast

variable {a} {n : ℤ}

/-- The double of a numeral is the one nearest what the numeral says. -/
theorem value?_toBinary64_eq_some_iff {v : ℚ} :
    a.toBinary64.value? = some v ↔ Nearest a.value v :=
  Binary64.value?_ofDecimal_eq_some_iff

/-! ## Few digits -/

section
variable (hdigits : a.coefficient < 10 ^ 15) (hleast : -300 ≤ a.exponent)
  (hgreatest : a.exponent ≤ 0)
include hgreatest

theorem abs_value_le : |a.value| ≤ a.coefficient := by
  have hpow : (10 : ℚ) ^ a.exponent ≤ 1 := zpow_le_one_of_nonpos₀ (by norm_num) hgreatest
  rw [abs_value]
  exact mul_le_of_le_one_right (Nat.cast_nonneg _) hpow

/-- A decimal fraction and an integer differ by one in the last place at least. -/
theorem le_abs_sub_value (hne : a.value ≠ n) : 10 ^ a.exponent ≤ |n - a.value| := by
  have hten : (10 : ℚ) ≠ 0 := by norm_num
  have hu : (0 : ℚ) < 10 ^ a.exponent := by positivity
  have hone : (10 : ℚ) ^ (-a.exponent).toNat * 10 ^ a.exponent = 10 ^ (0 : ℤ) :=
    Binary64.pow_mul_zpow hten (by omega)
  have hdistance : (n : ℚ) - a.value =
      (n * 10 ^ (-a.exponent).toNat - a.significand : ℤ) * 10 ^ a.exponent := by
    rw [value_eq]
    push_cast
    rw [sub_mul, mul_assoc, hone, zpow_zero, mul_one]
  have hsignificand : n * 10 ^ (-a.exponent).toNat - a.significand ≠ 0 := by
    intro hzero
    rw [hzero, Int.cast_zero, zero_mul] at hdistance
    exact hne (sub_eq_zero.1 hdistance).symm
  have hcast : (1 : ℚ) ≤ |((n * 10 ^ (-a.exponent).toNat - a.significand : ℤ) : ℚ)| := by
    exact_mod_cast Int.one_le_abs hsignificand
  rw [hdistance, abs_mul, abs_of_pos hu]
  exact le_mul_of_one_le_left hu.le hcast

include hdigits hleast

/-- A fraction of fifteen digits is not rounded to an integer. -/
theorem value_eq_of_nearest (h : Nearest a.value n) : a.value = n := by
  by_contra hne
  have hfar := le_abs_sub_value hgreatest hne
  have hu : (0 : ℚ) < 10 ^ a.exponent := by positivity
  have hcoefficient : (a.coefficient : ℚ) < 10 ^ 15 := by exact_mod_cast hdigits
  have hvalue : |a.value| < 10 ^ 15 * 10 ^ a.exponent := by
    rw [abs_value]
    exact mul_lt_mul_of_pos_right hcoefficient hu
  by_cases hzero : n = 0
  · rw [hzero, Int.cast_zero] at h hfar
    rw [zero_sub, abs_neg] at hfar
    have hnear := h.abs_le_of_zero
    have hunit : (10 : ℚ) ^ (-300 : ℤ) ≤ 10 ^ a.exponent :=
      zpow_le_zpow_right₀ (by norm_num) hleast
    have hpos : (0 : ℚ) < 2 ^ Binary64.minExponent := by positivity
    have hleastDouble := Binary64.two_zpow_minExponent_le
    linarith
  · -- the distance is a unit of the decimal fraction at least, and less than that for a double
    have hbound : n.natAbs < 2 ^ 53 := by
      have hdouble : IsDouble (10 ^ 15 : ℤ) := Binary64.isDouble_intCast (by decide)
      have hvalue' := (abs_value_le hgreatest).trans hcoefficient.le
      have hle := h.abs_le_of_le hdouble (by exact_mod_cast hvalue')
      rw [← Int.cast_abs, Int.abs_eq_natAbs] at hle
      have hnat : n.natAbs ≤ 10 ^ 15 := by exact_mod_cast hle
      exact hnat.trans_lt (by decide)
    have hnear := h.abs_intCast_sub_le hzero hbound
    have htriangle := abs_sub_abs_le_abs_sub (n : ℚ) a.value
    rw [le_div_iff₀ (by norm_num)] at hnear
    linarith

end

end Numeral

end SheetIntake
