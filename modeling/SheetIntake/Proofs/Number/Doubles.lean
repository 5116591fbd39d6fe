import SheetIntake.Number.Binary64
import Mathlib.Algebra.Order.Field.Power
import Mathlib.Algebra.Order.Ring.Abs
import Mathlib.Data.Rat.Cast.Order
import Mathlib.Tactic.Linarith
import Mathlib.Tactic.FieldSimp
import Mathlib.Tactic.Ring

/-! # Doubles among the rational numbers

    The rational numbers that finite doubles stand for, and which of them is nearest a given
    number.  Two doubles can be equally near; then the one with the even significand counts, and as
    there is a double between any two of these, the nearest double is unique
    (`Nearest.unique`). -/

namespace SheetIntake.Binary64

/-! ## Doubles -/

/-- The significand has at most 53 bits, and the exponent is one of a double. -/
structure Fits (m e : ℤ) : Prop where
  significand : m.natAbs < 2 ^ 53
  least : minExponent ≤ e
  greatest : e ≤ maxExponent

/-- The number is a finite double. -/
def IsDouble (v : ℚ) : Prop := ∃ m e : ℤ, Fits m e ∧ v = m * 2 ^ e

/-- The number is a finite double with an even significand.  The significand is the one of the
canonical form, which takes all bits that the exponent leaves it. -/
def IsEven (v : ℚ) : Prop :=
  ∃ m e : ℤ, Fits m e ∧ (2 ^ 52 ≤ m.natAbs ∨ e = minExponent) ∧ Even m ∧ v = m * 2 ^ e

theorem Fits.neg {m e : ℤ} (h : Fits m e) : Fits (-m) e := by
  obtain ⟨hm, hleast, hgreatest⟩ := h
  exact ⟨by rwa [Int.natAbs_neg], hleast, hgreatest⟩

theorem IsDouble.neg {v : ℚ} (h : IsDouble v) : IsDouble (-v) := by
  obtain ⟨m, e, hfits, rfl⟩ := h
  refine ⟨-m, e, hfits.neg, ?_⟩
  push_cast
  ring

theorem IsEven.neg {v : ℚ} (h : IsEven v) : IsEven (-v) := by
  obtain ⟨m, e, hfits, hnormal, hm, rfl⟩ := h
  refine ⟨-m, e, hfits.neg, by rwa [Int.natAbs_neg], hm.neg, ?_⟩
  push_cast
  ring

/-- The significand may be the first one with 54 bits. -/
theorem isDouble_of_le {m e : ℤ} (hm : m.natAbs ≤ 2 ^ 53) (hleast : minExponent ≤ e)
    (hgreatest : e < maxExponent) : IsDouble (m * 2 ^ e) := by
  by_cases hlt : m.natAbs < 2 ^ 53
  · exact ⟨m, e, ⟨hlt, hleast, hgreatest.le⟩, rfl⟩
  · refine ⟨m / 2, e + 1, ⟨by omega, by omega, hgreatest⟩, ?_⟩
    have hhalf : m = m / 2 * 2 := by omega
    have hcast : (m : ℚ) = (m / 2 : ℤ) * 2 := by exact_mod_cast hhalf
    rw [zpow_add_one₀ two_ne_zero, hcast]
    ring

/-- Integers of at most 53 bits are doubles. -/
theorem isDouble_intCast {n : ℤ} (h : n.natAbs ≤ 2 ^ 53) : IsDouble n := by
  have hdouble : IsDouble (n * 2 ^ (0 : ℤ)) := isDouble_of_le h (by decide) (by decide)
  rwa [zpow_zero, mul_one] at hdouble

theorem isDouble_zero : IsDouble 0 := by
  simpa using isDouble_intCast (n := 0) (by decide)

/-- Powers of one number, one of them with a natural exponent, make one power. -/
theorem pow_mul_zpow {b : ℚ} (hb : b ≠ 0) {k : ℕ} {e f : ℤ} (h : k + e = f) :
    b ^ k * b ^ e = b ^ f := by
  rw [← h, zpow_add₀ hb, zpow_natCast]

theorem two_mul_zpow_le {e f : ℤ} (h : e < f) : 2 * (2 : ℚ) ^ e ≤ 2 ^ f := by
  rw [← zpow_one_add₀ two_ne_zero]
  exact zpow_le_zpow_right₀ one_le_two (by omega)

/-- The successor of an even double is a double, and no even double is less than that. -/
theorem exists_isDouble_between_of_nonneg {v w : ℚ} (hv : IsEven v) (hw : IsEven w)
    (hzero : 0 ≤ v) (hlt : v < w) : ∃ u, IsDouble u ∧ v < u ∧ u < w := by
  obtain ⟨m, e, ⟨hm, hleast, hgreatest⟩, hmnormal, hmeven, rfl⟩ := hv
  obtain ⟨n, f, ⟨hn, hleast', -⟩, hnnormal, hneven, rfl⟩ := hw
  have he : (0 : ℚ) < 2 ^ e := by positivity
  have hf : (0 : ℚ) < 2 ^ f := by positivity
  have hm0 : 0 ≤ m := by exact_mod_cast nonneg_of_mul_nonneg_left hzero he
  have hn0 : 0 < n := by exact_mod_cast pos_of_mul_pos_left (hzero.trans_lt hlt) hf.le
  obtain ⟨i, rfl⟩ := hmeven
  obtain ⟨j, rfl⟩ := hneven
  -- the successor of the smaller one is odd, so its significand still has 53 bits
  have hm' : i + i + 1 < 2 ^ 53 := by omega
  refine ⟨(i + i + 1 : ℤ) * 2 ^ e, ⟨_, e, ⟨by omega, hleast, hgreatest⟩, rfl⟩, ?_, ?_⟩
  · have hsucc : ((i + i : ℤ) : ℚ) < (i + i + 1 : ℤ) := by exact_mod_cast Int.lt_succ _
    exact mul_lt_mul_of_pos_right hsucc he
  · rcases lt_trichotomy f e with hless | rfl | hgreater
    · -- the larger double cannot have the smaller exponent
      exfalso
      have hjless : ((j + j : ℤ) : ℚ) ≤ 2 ^ 53 := by exact_mod_cast (by omega : j + j ≤ 2 ^ 53)
      have hiless : (2 : ℚ) ^ 52 ≤ (i + i : ℤ) := by exact_mod_cast (by omega : 2 ^ 52 ≤ i + i)
      have hpow := two_mul_zpow_le hless
      have hupper := mul_le_mul_of_nonneg_right hjless hf.le
      have hlower := mul_le_mul_of_nonneg_right hiless he.le
      linarith
    · -- two even significands are not next to each other
      have hij : i + i < j + j := by exact_mod_cast lt_of_mul_lt_mul_right hlt he.le
      have hsucc : ((i + i + 1 : ℤ) : ℚ) < (j + j : ℤ) := by
        exact_mod_cast (by omega : i + i + 1 < j + j)
      exact mul_lt_mul_of_pos_right hsucc he
    · -- with a greater exponent, 52 bits are more than 53 with the smaller one
      have hiless : ((i + i + 1 : ℤ) : ℚ) < 2 ^ 53 := by exact_mod_cast hm'
      have hjless : (2 : ℚ) ^ 52 ≤ (j + j : ℤ) := by exact_mod_cast (by omega : 2 ^ 52 ≤ j + j)
      have hpow := two_mul_zpow_le hgreater
      have hupper := mul_lt_mul_of_pos_right hiless he
      have hlower := mul_le_mul_of_nonneg_right hjless hf.le
      linarith

/-- No even double is the next one after an even double. -/
theorem exists_isDouble_between {v w : ℚ} (hv : IsEven v) (hw : IsEven w) (hlt : v < w) :
    ∃ u, IsDouble u ∧ v < u ∧ u < w := by
  by_cases hnonneg : 0 ≤ v
  · exact exists_isDouble_between_of_nonneg hv hw hnonneg hlt
  · by_cases hnonpos : w ≤ 0
    · obtain ⟨u, hu, hwu, huv⟩ := exists_isDouble_between_of_nonneg hw.neg hv.neg
        (neg_nonneg.2 hnonpos) (neg_lt_neg hlt)
      exact ⟨-u, hu.neg, lt_neg.2 huv, neg_lt.2 hwu⟩
    · exact ⟨0, isDouble_zero, not_le.1 hnonneg, not_le.1 hnonpos⟩

/-! ## The nearest double -/

/-- Half way from the largest double to the power of two above it; from here on, numbers are
rounded to infinity. -/
def overflowBound : ℚ := (2 ^ 53 - 1 / 2) * 2 ^ maxExponent

/-- Rounding `q` gives the finite double `v`: no double is nearer to `q`, and another one is equally
near only if the significand of `v` is even. -/
structure Nearest (q v : ℚ) : Prop where
  inRange : |q| < overflowBound
  isDouble : IsDouble v
  closest : ∀ w, IsDouble w → |v - q| ≤ |w - q|
  even : ∀ w, IsDouble w → |v - q| = |w - q| → v = w ∨ IsEven v

theorem IsDouble.inRange {q : ℚ} (h : IsDouble q) : |q| < overflowBound := by
  obtain ⟨m, e, ⟨hm, -, hgreatest⟩, rfl⟩ := h
  have hsignificand : |(m : ℚ)| ≤ 2 ^ 53 - 1 := by
    rw [← Int.cast_abs, Int.abs_eq_natAbs, Int.cast_natCast]
    have hle : m.natAbs + 1 ≤ 2 ^ 53 := hm
    have hcast : (m.natAbs : ℚ) + 1 ≤ 2 ^ 53 := by exact_mod_cast hle
    linarith
  have hpow : (2 : ℚ) ^ e ≤ 2 ^ maxExponent := zpow_le_zpow_right₀ one_le_two hgreatest
  have he : (0 : ℚ) < 2 ^ e := by positivity
  rw [abs_mul, abs_of_pos he]
  calc |(m : ℚ)| * 2 ^ e ≤ (2 ^ 53 - 1) * 2 ^ maxExponent :=
        mul_le_mul hsignificand hpow he.le ((abs_nonneg _).trans hsignificand)
    _ < overflowBound := mul_lt_mul_of_pos_right (by norm_num) (by positivity)

theorem IsDouble.nearest {q : ℚ} (h : IsDouble q) : Nearest q q where
  inRange := h.inRange
  isDouble := h
  closest := fun w _ => by
    rw [sub_self, abs_zero]
    exact abs_nonneg _
  even := fun w _ hdistance => by
    rw [sub_self, abs_zero] at hdistance
    exact .inl (sub_eq_zero.1 (abs_eq_zero.1 hdistance.symm)).symm

theorem Nearest.neg {q v : ℚ} (h : Nearest q v) : Nearest (-q) (-v) := by
  have hdistance : ∀ w : ℚ, |w - -q| = |-w - q| := fun w => by
    rw [← abs_neg]
    congr 1
    ring
  refine ⟨by rw [abs_neg]; exact h.inRange, h.isDouble.neg, fun w hw => ?_, fun w hw heq => ?_⟩
  · rw [hdistance, hdistance, neg_neg]
    exact h.closest _ hw.neg
  · rw [hdistance, hdistance, neg_neg] at heq
    rcases h.even _ hw.neg heq with hvw | heven
    · exact .inl (neg_eq_iff_eq_neg.2 hvw)
    · exact .inr heven.neg

/-- What is nearer to the greater of two numbers is not less than their mean. -/
theorem add_le_of_abs_sub_le {q v w : ℚ} (hlt : v < w) (h : |w - q| ≤ |v - q|) :
    v + w ≤ 2 * q := by
  by_contra hless
  have hnearer : |v - q| < w - q := abs_lt.2 ⟨by linarith, by linarith⟩
  exact absurd (h.trans_lt hnearer) (le_abs_self _).not_gt

theorem le_add_of_abs_sub_le {q v w : ℚ} (hlt : v < w) (h : |v - q| ≤ |w - q|) :
    2 * q ≤ v + w := by
  by_contra hless
  have hnearer : |w - q| < q - v := abs_lt.2 ⟨by linarith, by linarith⟩
  rw [abs_sub_comm v] at h
  exact absurd (h.trans_lt hnearer) (le_abs_self _).not_gt

section
variable {q v w : ℚ}

theorem Nearest.le (hv : Nearest q v) (hw : Nearest q w) : w ≤ v := by
  by_contra hless
  have hlt : v < w := not_le.1 hless
  have hdistance : |v - q| = |w - q| :=
    le_antisymm (hv.closest w hw.isDouble) (hw.closest v hv.isDouble)
  have hveven : IsEven v := (hv.even w hw.isDouble hdistance).resolve_left hlt.ne
  have hweven : IsEven w := (hw.even v hv.isDouble hdistance.symm).resolve_left hlt.ne'
  obtain ⟨u, hu, hvu, huw⟩ := exists_isDouble_between hveven hweven hlt
  -- `q` would be no more than one mean and no less than a greater one
  have hbelow := le_add_of_abs_sub_le hvu (hv.closest u hu)
  have habove := add_le_of_abs_sub_le huw (hw.closest u hu)
  linarith

/-- There is one nearest double at most. -/
theorem Nearest.unique (hv : Nearest q v) (hw : Nearest q w) : v = w :=
  le_antisymm (hw.le hv) (hv.le hw)

/-- Rounding does not pass a double. -/
theorem Nearest.le_of_le (h : Nearest q v) (hw : IsDouble w) (hle : q ≤ w) : v ≤ w := by
  by_contra hless
  have habove := add_le_of_abs_sub_le (not_le.1 hless) (h.closest w hw)
  linarith

theorem Nearest.abs_le_of_le (h : Nearest q v) (hw : IsDouble w) (hle : |q| ≤ w) : |v| ≤ w := by
  obtain ⟨hlow, hhigh⟩ := abs_le.1 hle
  have hneg : -v ≤ w := h.neg.le_of_le hw (neg_le.1 hlow)
  exact abs_le.2 ⟨neg_le.1 hneg, h.le_of_le hw hhigh⟩

/-! ## Errors -/

/-- Rounding is off by half a unit in the last place at most. -/
theorem Nearest.abs_sub_le {m e : ℤ} (h : Nearest q (m * 2 ^ e)) (hm : m.natAbs < 2 ^ 53)
    (hleast : minExponent ≤ e) (hgreatest : e < maxExponent) :
    |m * 2 ^ e - q| ≤ 2 ^ e / 2 := by
  have hbelow : IsDouble ((m - 1 : ℤ) * 2 ^ e) := isDouble_of_le (by omega) hleast hgreatest
  have habove : IsDouble ((m + 1 : ℤ) * 2 ^ e) := isDouble_of_le (by omega) hleast hgreatest
  have he : (0 : ℚ) < 2 ^ e := by positivity
  push_cast at hbelow habove
  have hlow := add_le_of_abs_sub_le (by linarith) (h.closest _ hbelow)
  have hhigh := le_add_of_abs_sub_le (by linarith) (h.closest _ habove)
  rw [abs_le]
  constructor <;> linarith

/-- Only what is next to zero is rounded to zero. -/
theorem Nearest.abs_le_of_zero (h : Nearest q 0) : |q| ≤ 2 ^ minExponent / 2 := by
  have hform : Nearest q ((0 : ℤ) * 2 ^ minExponent) := by
    rwa [Int.cast_zero, zero_mul]
  have herror := hform.abs_sub_le (by decide) le_rfl (by decide)
  rwa [Int.cast_zero, zero_mul, zero_sub, abs_neg] at herror

/-- The significand of an integer can be shifted to the left until it has 53 bits. -/
theorem exists_normal_form {n : ℤ} (hzero : n ≠ 0) (hn : n.natAbs < 2 ^ 53) :
    ∃ m e : ℤ, (n : ℚ) = m * 2 ^ e ∧ m.natAbs < 2 ^ 53 ∧ minExponent ≤ e ∧ e < maxExponent ∧
      2 ^ 52 * 2 ^ e ≤ |(n : ℚ)| := by
  have hpos : n.natAbs ≠ 0 := Int.natAbs_ne_zero.2 hzero
  obtain ⟨a, ha⟩ : ∃ a, a = Nat.log2 n.natAbs := ⟨_, rfl⟩
  have hlow : 2 ^ a ≤ n.natAbs := ha ▸ Nat.log2_self_le hpos
  have hhigh : n.natAbs < 2 ^ (a + 1) := ha ▸ Nat.lt_log2_self
  have ha52 : a < 53 := (Nat.pow_lt_pow_iff_right (by decide)).1 (hlow.trans_lt hn)
  refine ⟨n * 2 ^ (52 - a), a - 52, ?_, ?_, ?_, ?_, ?_⟩
  · have hshift : (2 : ℚ) ^ (52 - a) * 2 ^ ((a : ℤ) - 52) = 2 ^ (0 : ℤ) :=
      pow_mul_zpow two_ne_zero (by omega)
    push_cast
    rw [mul_assoc, hshift, zpow_zero, mul_one]
  · rw [Int.natAbs_mul, Int.natAbs_pow]
    calc n.natAbs * 2 ^ (52 - a) < 2 ^ (a + 1) * 2 ^ (52 - a) :=
          Nat.mul_lt_mul_of_pos_right hhigh (Nat.two_pow_pos _)
      _ = 2 ^ 53 := by
        rw [← pow_add]
        congr 1
        omega
  · unfold minExponent
    omega
  · unfold maxExponent
    omega
  · have hunit : (2 : ℚ) ^ 52 * 2 ^ ((a : ℤ) - 52) = 2 ^ (a : ℤ) :=
      pow_mul_zpow two_ne_zero (by omega)
    rw [hunit, zpow_natCast, ← Int.cast_abs, Int.abs_eq_natAbs]
    exact_mod_cast hlow

/-- The relative error of an integer of 53 bits is less than the weight of its last bit. -/
theorem Nearest.abs_intCast_sub_le {n : ℤ} (h : Nearest q n) (hzero : n ≠ 0)
    (hn : n.natAbs < 2 ^ 53) : |n - q| ≤ |(n : ℚ)| / 2 ^ 53 := by
  obtain ⟨m, e, hform, hm, hleast, hgreatest, hnormal⟩ := exists_normal_form hzero hn
  rw [hform] at h
  have herror := h.abs_sub_le hm hleast hgreatest
  rw [← hform] at herror
  rw [le_div_iff₀ (by norm_num)]
  linarith

end

end SheetIntake.Binary64
