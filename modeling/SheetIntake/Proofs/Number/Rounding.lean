import SheetIntake.Proofs.Number.Doubles
import Mathlib.Algebra.Order.Field.Basic
import Mathlib.Tactic.NormNum

/-! # Rounding

    A quotient is rounded in two steps: an exponent is found with which the quotient takes 53 bits
    (`isExponentFor_exponentFor`), and the significand is rounded to the nearest integer
    (`nearestInteger_roundHalfEven`).  The points with this exponent form a grid; doubles with a
    greater exponent are points of it, and doubles with a smaller one are farther away than the
    least point that takes 53 bits.  So the nearest point of the grid is the nearest double
    (`value?_ofRatio_eq_some_iff`). -/

namespace SheetIntake.Binary64

/-! ## To an integer -/

/-- No integer is nearer to `t` than `r` is, and `r` is even if another one is equally near. -/
structure NearestInteger (t : ℚ) (r : ℤ) : Prop where
  half : |r - t| ≤ 1 / 2
  even : |r - t| = 1 / 2 → Even r

namespace NearestInteger

variable {t : ℚ} {r : ℤ} (h : NearestInteger t r)
include h

theorem half_le {k : ℤ} (hk : k ≠ r) : 1 / 2 ≤ |k - t| := by
  have hone : (1 : ℚ) ≤ |(k : ℚ) - r| := by
    have habs : 1 ≤ |k - r| := Int.one_le_abs (sub_ne_zero.2 hk)
    exact_mod_cast habs
  have htriangle := abs_sub_le (k : ℚ) t r
  have hhalf := h.half
  rw [abs_sub_comm] at hhalf
  linarith

theorem closest (k : ℤ) : |r - t| ≤ |k - t| := by
  by_cases hk : k = r
  · rw [hk]
  · exact h.half.trans (h.half_le hk)

theorem eq_or_even {k : ℤ} (heq : |r - t| = |k - t|) : r = k ∨ Even r := by
  by_cases hk : k = r
  · exact .inl hk.symm
  · exact .inr (h.even (le_antisymm h.half (heq ▸ h.half_le hk)))

theorem le_of_le {k : ℤ} (hk : k ≤ t) : k ≤ r := by
  by_contra hless
  have hsucc : (r : ℚ) + 1 ≤ k := by exact_mod_cast not_le.1 hless
  have hhalf := (abs_le.1 h.half).1
  linarith

theorem le_of_ge {k : ℤ} (hk : t ≤ k) : r ≤ k := by
  by_contra hless
  have hsucc : (k : ℚ) + 1 ≤ r := by exact_mod_cast not_le.1 hless
  have hhalf := (abs_le.1 h.half).2
  linarith

end NearestInteger

/-- How far an integer is from a quotient, in parts of the denominator. -/
theorem nearestInteger_div {num den : ℕ} {r : ℤ} (hden : 0 < den)
    (hhalf : |2 * (r * den - num)| ≤ den) (heven : |2 * (r * den - num)| = den → Even r) :
    NearestInteger (num / den) r := by
  have hden' : (0 : ℚ) < den := by exact_mod_cast hden
  have hdistance : |(r : ℚ) - num / den| = (|2 * (r * den - num)| : ℤ) / den / 2 := by
    have hquotient : (r : ℚ) - num / den = 2 * (r * den - num) / den / 2 := by
      field_simp
    rw [hquotient, abs_div, abs_div, abs_of_pos hden', abs_two]
    push_cast
    rfl
  constructor
  · have hcast : ((|2 * (r * den - num)| : ℤ) : ℚ) ≤ den := by exact_mod_cast hhalf
    rw [hdistance]
    have hone := div_le_one_of_le₀ hcast hden'.le
    linarith
  · intro heq
    refine heven ?_
    have hone : ((|2 * (r * den - num)| : ℤ) : ℚ) / den = 1 := by linarith
    rw [div_eq_one_iff_eq hden'.ne'] at hone
    exact_mod_cast hone

theorem nearestInteger_roundHalfEven (num : ℕ) {den : ℕ} (hden : 0 < den) :
    NearestInteger (num / den) (roundHalfEven num den : ℕ) := by
  obtain ⟨q, hq⟩ : ∃ q, q = num / den := ⟨_, rfl⟩
  obtain ⟨r, hr⟩ : ∃ r, r = num % den := ⟨_, rfl⟩
  have hless : r < den := hr ▸ Nat.mod_lt num hden
  have hnum : (num : ℤ) = q * den + r := by
    rw [hq, hr]
    exact_mod_cast (Nat.div_add_mod' num den).symm
  have hbelow : 2 * (((q : ℕ) : ℤ) * den - num) = -(2 * r) := by
    rw [hnum]
    ring
  have habove : 2 * (((q + 1 : ℕ) : ℤ) * den - num) = 2 * (den - r) := by
    rw [hnum]
    push_cast
    ring
  unfold roundHalfEven
  dsimp only
  rw [← hq, ← hr]
  split
  · apply nearestInteger_div hden <;> rw [hbelow, abs_neg, abs_of_nonneg (by omega)] <;> omega
  · split
    · apply nearestInteger_div hden <;> rw [habove, abs_of_nonneg (by omega)] <;> omega
    · -- a tie: the quotient if it is even, else its successor
      rcases Nat.mod_two_eq_zero_or_one q with heven | hodd
      · rw [heven, Nat.add_zero]
        have hq' : Even (q : ℤ) := by exact_mod_cast Nat.even_iff.2 heven
        apply nearestInteger_div hden
        · rw [hbelow, abs_neg, abs_of_nonneg (by omega)]
          omega
        · exact fun _ => hq'
      · rw [hodd]
        have hq' : Even ((q + 1 : ℕ) : ℤ) := by
          exact_mod_cast Nat.even_add_one.2 (Nat.not_even_iff.2 hodd)
        apply nearestInteger_div hden
        · rw [habove, abs_of_nonneg (by omega)]
          omega
        · exact fun _ => hq'

/-! ## To the grid of an exponent -/

theorem unscale_pos (num : ℕ) {den : ℕ} (hden : 0 < den) (e : ℤ) : 0 < (unscale num den e).2 :=
  Nat.mul_pos hden (Nat.two_pow_pos _)

theorem zpow_eq_div {b : ℚ} (hb : b ≠ 0) (e : ℤ) : b ^ e = b ^ e.toNat / b ^ (-e).toNat := by
  rw [← zpow_natCast, ← zpow_natCast, ← zpow_sub₀ hb]
  congr 1
  omega

theorem unscale_div (num den : ℕ) (e : ℤ) :
    ((unscale num den e).1 : ℚ) / (unscale num den e).2 = num / den / 2 ^ e := by
  rw [zpow_eq_div two_ne_zero]
  unfold unscale
  push_cast [Nat.pow_eq]
  field_simp

/-- With the exponent, the number takes 53 bits, or less if the exponent is least. -/
structure IsExponentFor (q : ℚ) (e : ℤ) : Prop where
  least : minExponent ≤ e
  less : q < 2 ^ 53 * 2 ^ e
  normal : 2 ^ 52 * 2 ^ e ≤ q ∨ e = minExponent

theorem IsExponentFor.max {q : ℚ} {e : ℤ} (hless : q < 2 ^ 53 * 2 ^ e)
    (hnormal : 2 ^ 52 * 2 ^ e ≤ q) : IsExponentFor q (max minExponent e) := by
  by_cases he : minExponent ≤ e
  · rw [max_eq_right he]
    exact ⟨he, hless, .inl hnormal⟩
  · have hlt : e < minExponent := not_le.1 he
    rw [max_eq_left hlt.le]
    refine ⟨le_rfl, hless.trans ?_, .inr rfl⟩
    have hpow : (2 : ℚ) ^ e < 2 ^ minExponent := zpow_lt_zpow_right₀ one_lt_two hlt
    linarith

theorem two_zpow_sub (a b : ℕ) : (2 : ℚ) ^ ((a : ℤ) - b) = 2 ^ a / 2 ^ b := by
  rw [zpow_sub₀ two_ne_zero, zpow_natCast, zpow_natCast]

/-- The lengths of numerator and denominator in bits tell the quotient but for a factor of two. -/
theorem log2_bounds {num den : ℕ} (hnum : 0 < num) (hden : 0 < den) :
    let e : ℤ := Nat.log2 num - Nat.log2 den
    (2 : ℚ) ^ (e - 1) < num / den ∧ (num : ℚ) / den < 2 ^ (e + 1) := by
  intro e
  have hnumlow : (2 : ℚ) ^ num.log2 ≤ num := by exact_mod_cast Nat.log2_self_le hnum.ne'
  have hnumhigh : (num : ℚ) < 2 ^ (num.log2 + 1) := by exact_mod_cast Nat.lt_log2_self
  have hdenlow : (2 : ℚ) ^ den.log2 ≤ den := by exact_mod_cast Nat.log2_self_le hden.ne'
  have hdenhigh : (den : ℚ) < 2 ^ (den.log2 + 1) := by exact_mod_cast Nat.lt_log2_self
  have hnum' : (0 : ℚ) < num := by exact_mod_cast hnum
  have hden' : (0 : ℚ) < den := by exact_mod_cast hden
  constructor
  · have he : e - 1 = (num.log2 : ℤ) - (den.log2 + 1 : ℕ) := by
      push_cast
      omega
    rw [he, two_zpow_sub, div_lt_div_iff₀ (by positivity) hden']
    exact mul_lt_mul' hnumlow hdenhigh hden'.le hnum'
  · have he : e + 1 = ((num.log2 + 1 : ℕ) : ℤ) - den.log2 := by
      push_cast
      omega
    rw [he, two_zpow_sub, div_lt_div_iff₀ hden' (by positivity)]
    exact mul_lt_mul hnumhigh hdenlow (by positivity) (by positivity)

theorem isExponentFor_exponentFor {num den : ℕ} (hnum : 0 < num) (hden : 0 < den) :
    IsExponentFor (num / den) (exponentFor num den) := by
  obtain ⟨hlow, hhigh⟩ := log2_bounds hnum hden
  unfold exponentFor
  obtain ⟨e, he⟩ : ∃ e : ℤ, e = (Nat.log2 num : ℤ) - Nat.log2 den - 52 := ⟨_, rfl⟩
  rw [← pow_mul_zpow two_ne_zero (by omega : ((53 : ℕ) : ℤ) + e = _)] at hhigh
  rw [← pow_mul_zpow two_ne_zero (by omega : ((52 : ℕ) : ℤ) + (e - 1) = _)] at hlow
  have hdouble : (2 : ℚ) ^ 53 * 2 ^ (e - 1) = 2 ^ 52 * 2 ^ e := by
    rw [pow_mul_zpow two_ne_zero rfl, pow_mul_zpow two_ne_zero rfl]
    congr 1
    omega
  -- the comparison of the scaled numbers is one of the quotient
  have hscaled : (unscale num den e).1 < (unscale num den e).2 * Nat.pow 2 52 ↔
      (num : ℚ) / den < 2 ^ 52 * 2 ^ e := by
    have hden' : (0 : ℚ) < (unscale num den e).2 := by exact_mod_cast unscale_pos num hden e
    have he' : (0 : ℚ) < 2 ^ e := by positivity
    rw [← div_lt_iff₀ he', ← unscale_div, div_lt_iff₀ hden', mul_comm]
    exact_mod_cast Iff.rfl
  dsimp only
  rw [← he]
  split
  -- the estimate of the exponent is right, or too large by one
  · next hless =>
    rw [hscaled] at hless
    exact .max (by rwa [hdouble]) hlow.le
  · next hmore =>
    rw [hscaled, not_lt] at hmore
    exact .max hhigh hmore

/-- A distance on the grid is a distance of integers. -/
theorem abs_grid_sub_eq (q : ℚ) (k e : ℤ) : |k * 2 ^ e - q| = |k - q / 2 ^ e| * 2 ^ e := by
  have he : (0 : ℚ) < 2 ^ e := by positivity
  rw [← abs_of_pos he, ← abs_mul, abs_of_pos he, sub_mul, div_mul_cancel₀ _ he.ne']

/-- The significand `m` at the exponent `e` is nearest the positive number `q`.  It may have one bit
too many. -/
structure Rounded (q : ℚ) (m : ℕ) (e : ℤ) : Prop where
  exponent : IsExponentFor q e
  significand : NearestInteger (q / 2 ^ e) m

namespace Rounded

variable {q : ℚ} {m : ℕ} {e : ℤ} (h : Rounded q m e)
include h

theorem le : m ≤ 2 ^ 53 := by
  have hless : q / 2 ^ e ≤ ((2 ^ 53 : ℤ) : ℚ) := by
    rw [div_le_iff₀ (by positivity)]
    exact_mod_cast h.exponent.less.le
  exact_mod_cast h.significand.le_of_ge hless

theorem normal : 2 ^ 52 ≤ m ∨ e = minExponent := by
  refine h.exponent.normal.imp_left fun hnormal => ?_
  have hmore : ((2 ^ 52 : ℤ) : ℚ) ≤ q / 2 ^ e := by
    rw [le_div_iff₀ (by positivity)]
    exact_mod_cast hnormal
  exact_mod_cast h.significand.le_of_le hmore

theorem closest_on_grid (k : ℤ) : |m * 2 ^ e - q| ≤ |k * 2 ^ e - q| := by
  have hm := abs_grid_sub_eq q m e
  rw [Int.cast_natCast] at hm
  rw [hm, abs_grid_sub_eq]
  exact mul_le_mul_of_nonneg_right (h.significand.closest k) (by positivity)

/-- A double with a smaller exponent is farther away, as the grid has a point between. -/
theorem closer_than_finer {j f : ℤ} (hfits : Fits j f) (hless : f < e) :
    |m * 2 ^ e - q| < |j * 2 ^ f - q| := by
  have hnormal : (2 : ℚ) ^ 52 * 2 ^ e ≤ q := by
    refine h.exponent.normal.resolve_right fun heq => ?_
    have hleast := hfits.least
    omega
  have hj : (j : ℚ) < 2 ^ 53 := by
    have hsignificand := hfits.significand
    exact_mod_cast (by omega : j < 2 ^ 53)
  have hf : (0 : ℚ) < 2 ^ f := by positivity
  have hpow := two_mul_zpow_le hless
  have hbelow : (j : ℚ) * 2 ^ f < 2 ^ 52 * 2 ^ e := by
    have hlt := mul_lt_mul_of_pos_right hj hf
    linarith
  have hgrid := h.closest_on_grid (2 ^ 52)
  rw [Int.cast_pow, Int.cast_ofNat] at hgrid
  calc |m * 2 ^ e - q| ≤ |2 ^ 52 * 2 ^ e - q| := hgrid
    _ = q - 2 ^ 52 * 2 ^ e := by rw [abs_sub_comm, abs_of_nonneg (sub_nonneg.2 hnormal)]
    _ < q - j * 2 ^ f := by linarith
    _ ≤ |j * 2 ^ f - q| := by
      rw [abs_sub_comm]
      exact le_abs_self _

/-- A double is no nearer, and equally near only if it is the same one or the significand is
even. -/
theorem closest {w : ℚ} (hw : IsDouble w) :
    |m * 2 ^ e - q| ≤ |w - q| ∧ (|m * 2 ^ e - q| = |w - q| → m * 2 ^ e = w ∨ Even m) := by
  obtain ⟨j, f, hfits, rfl⟩ := hw
  by_cases hless : f < e
  · have hlt := h.closer_than_finer hfits hless
    exact ⟨hlt.le, fun heq => absurd heq hlt.ne⟩
  · -- a larger exponent only leaves out points of the grid
    have hcoarse : (j : ℚ) * 2 ^ f = (j * 2 ^ (f - e).toNat : ℤ) * 2 ^ e := by
      have hpow : (2 : ℚ) ^ (f - e).toNat * 2 ^ e = 2 ^ f :=
        pow_mul_zpow two_ne_zero (by omega)
      rw [← hpow]
      push_cast
      ring
    rw [hcoarse]
    refine ⟨h.closest_on_grid _, fun heq => ?_⟩
    have hm := abs_grid_sub_eq q m e
    rw [Int.cast_natCast] at hm
    rw [hm, abs_grid_sub_eq] at heq
    have he : (2 : ℚ) ^ e ≠ 0 := by positivity
    rcases h.significand.eq_or_even (mul_right_cancel₀ he heq) with hsame | heven
    · left
      rw [← hsame, Int.cast_natCast]
    · right
      exact_mod_cast heven

theorem scaled_lt (hm : m < 2 ^ 53) : q / 2 ^ e < 2 ^ 53 - 1 / 2 := by
  have hcast : (m : ℚ) ≤ 2 ^ 53 - 1 := by
    have hsucc : (m : ℚ) + 1 ≤ 2 ^ 53 := by exact_mod_cast hm
    linarith
  have hhalf := (abs_le.1 h.significand.half).1
  rw [Int.cast_natCast] at hhalf
  refine lt_of_le_of_ne (by linarith) fun heq => ?_
  -- a tie would have given the even significand above
  have hlargest : (m : ℚ) = 2 ^ 53 - 1 := by linarith
  have heven : Even (m : ℤ) := by
    refine h.significand.even ?_
    rw [Int.cast_natCast, hlargest, heq]
    norm_num
  have hodd : m = 2 ^ 53 - 1 := by
    have hsucc : (m : ℚ) + 1 = 2 ^ 53 := by linarith
    have hnat : m + 1 = 2 ^ 53 := by exact_mod_cast hsucc
    omega
  rw [hodd] at heven
  revert heven
  decide

end Rounded

/-- The significand `m` at the exponent `e` is the canonical form of the double nearest the positive
number `q`, were there no greatest exponent. -/
structure Carried (q : ℚ) (m : ℕ) (e : ℤ) : Prop where
  significand : m < 2 ^ 53
  least : minExponent ≤ e
  normal : 2 ^ 52 ≤ m ∨ e = minExponent
  closest : ∀ w, IsDouble w → |m * 2 ^ e - q| ≤ |w - q|
  even : ∀ w, IsDouble w → |m * 2 ^ e - q| = |w - q| → m * 2 ^ e = w ∨ Even m
  inRange : q < overflowBound ↔ e ≤ maxExponent

section
variable {q : ℚ} {m : ℕ} {e : ℤ}

theorem Rounded.carried (h : Rounded q m e) (hm : m < 2 ^ 53) : Carried q m e where
  significand := hm
  least := h.exponent.least
  normal := h.normal
  closest := fun _ hw => (h.closest hw).1
  even := fun _ hw => (h.closest hw).2
  inRange := by
    constructor
    · intro hless
      by_contra hgreat
      have hnormal : (2 : ℚ) ^ 52 * 2 ^ e ≤ q := by
        refine h.exponent.normal.resolve_right fun heq => ?_
        rw [heq] at hgreat
        exact hgreat (by decide)
      have hpow := two_mul_zpow_le (not_le.1 hgreat)
      have hmax : (0 : ℚ) < 2 ^ maxExponent := by positivity
      rw [overflowBound] at hless
      linarith
    · intro hle
      have hpow : (2 : ℚ) ^ e ≤ 2 ^ maxExponent := zpow_le_zpow_right₀ one_le_two hle
      have hless := (div_lt_iff₀ (by positivity)).1 (h.scaled_lt hm)
      exact hless.trans_le (mul_le_mul_of_nonneg_left hpow (by norm_num))

/-- A bit too many goes to the exponent. -/
theorem Rounded.carried_of_eq (h : Rounded q m e) (hm : m = 2 ^ 53) :
    Carried q (2 ^ 52) (e + 1) := by
  have hsame : ((2 ^ 52 : ℕ) : ℚ) * 2 ^ (e + 1) = m * 2 ^ e := by
    rw [zpow_add_one₀ two_ne_zero, hm]
    push_cast
    ring
  refine ⟨by decide, by have := h.exponent.least; omega, .inl le_rfl, fun w hw => ?_,
    fun w hw _ => .inr (by decide), ?_⟩
  · rw [hsame]
    exact (h.closest hw).1
  · constructor
    · -- from half a unit below `2 ^ 53` on, the significand is rounded up
      intro hless
      by_contra hgreat
      have hhalf := (abs_le.1 h.significand.half).2
      rw [Int.cast_natCast, hm] at hhalf
      push_cast at hhalf
      have hmore : (2 ^ 53 - 1 / 2) * 2 ^ e ≤ q := by
        rw [← le_div_iff₀ (by positivity)]
        linarith
      have hpow : (2 : ℚ) ^ maxExponent ≤ 2 ^ e := zpow_le_zpow_right₀ one_le_two (by omega)
      have hbound : overflowBound ≤ (2 ^ 53 - 1 / 2) * 2 ^ e :=
        mul_le_mul_of_nonneg_left hpow (by norm_num)
      linarith
    · intro hle
      have hpow := two_mul_zpow_le (by omega : e < maxExponent)
      have hless := h.exponent.less
      have hmax : (0 : ℚ) < 2 ^ maxExponent := by positivity
      rw [overflowBound]
      linarith

theorem Carried.nearest (h : Carried q m e) (hq : 0 < q) (he : e ≤ maxExponent) :
    Nearest q (m * 2 ^ e) := by
  have hfits : Fits m e := ⟨h.significand, h.least, he⟩
  refine ⟨?_, ⟨m, e, hfits, by simp⟩, h.closest, fun w hw heq => ?_⟩
  · rw [abs_of_pos hq]
    exact h.inRange.2 he
  · refine (h.even w hw heq).imp_right fun heven => ?_
    exact ⟨m, e, hfits, h.normal, by exact_mod_cast heven, by simp⟩

end

/-! ## Doubles of quotients -/

theorem exists_carried (s : Bool) {num den : ℕ} (hnum : 0 < num) (hden : 0 < den) :
    ∃ m e, Carried (num / den) m e ∧
      ofRatio s num den = if maxExponent < e then infinite s else finite s m e := by
  obtain ⟨e, he⟩ : ∃ e, exponentFor num den = e := ⟨_, rfl⟩
  obtain ⟨⟨n, d⟩, hscaled⟩ : ∃ p, unscale num den e = p := ⟨_, rfl⟩
  obtain ⟨m, hm⟩ : ∃ m, roundHalfEven n d = m := ⟨_, rfl⟩
  -- the three intermediate results are named, so that no step computes a power of two
  have hrounded : Rounded (num / den) m e := by
    constructor
    · rw [← he]
      exact isExponentFor_exponentFor hnum hden
    · have hd : 0 < d := by simpa only [hscaled] using unscale_pos num hden e
      have hquotient : (n : ℚ) / d = num / den / 2 ^ e := by
        simpa only [hscaled] using unscale_div num den e
      rw [← hquotient, ← hm]
      exact nearestInteger_roundHalfEven n hd
  unfold ofRatio
  rw [if_neg hnum.ne', if_neg hden.ne', he]
  dsimp only
  rw [hscaled]
  dsimp only
  rw [hm]
  by_cases hcarry : m = Nat.pow 2 53
  · rw [if_pos hcarry]
    exact ⟨_, _, hrounded.carried_of_eq hcarry, rfl⟩
  · rw [if_neg hcarry]
    exact ⟨_, _, hrounded.carried (lt_of_le_of_ne hrounded.le hcarry), rfl⟩

/-- The sign of a double applied to a number. -/
def signed (negative : Bool) (q : ℚ) : ℚ := if negative then -q else q

/-- The number that a finite double stands for. -/
def value? : Binary64 → Option ℚ
  | finite s m e => some (signed s (m * 2 ^ e))
  | _ => none

theorem abs_signed (s : Bool) (q : ℚ) : |signed s q| = |q| := by
  cases s with
  | false => rfl
  | true => exact abs_neg q

theorem signed_zero (s : Bool) : signed s 0 = 0 := by
  cases s with
  | false => rfl
  | true => exact neg_zero

theorem Nearest.signed {q v : ℚ} (h : Nearest q v) (s : Bool) :
    Nearest (signed s q) (signed s v) := by
  cases s with
  | false => exact h
  | true => exact h.neg

theorem value?_ofRatio_of_inRange (s : Bool) {num den : ℕ} (hden : 0 < den)
    (hrange : (num : ℚ) / den < overflowBound) :
    ∃ v, (ofRatio s num den).value? = some v ∧ Nearest (signed s (num / den)) v := by
  rcases Nat.eq_zero_or_pos num with rfl | hnum
  · refine ⟨signed s 0, ?_, ?_⟩
    · rw [ofRatio, if_pos rfl, zero, value?, Nat.cast_zero, zero_mul]
    · rw [Nat.cast_zero, zero_div]
      exact isDouble_zero.nearest.signed s
  · obtain ⟨m, e, hcarried, heq⟩ := exists_carried s hnum hden
    have he : e ≤ maxExponent := hcarried.inRange.1 hrange
    have hpos : (0 : ℚ) < num / den := by positivity
    refine ⟨signed s (m * 2 ^ e), ?_, (hcarried.nearest hpos he).signed s⟩
    rw [heq, if_neg (not_lt.2 he), value?]

theorem value?_ofRatio_of_overflow (s : Bool) {num den : ℕ} (hden : 0 < den)
    (hoverflow : overflowBound ≤ (num : ℚ) / den) : (ofRatio s num den).value? = none := by
  have hnum : 0 < num := by
    by_contra hzero
    have hbound : 0 < overflowBound := by
      rw [overflowBound]
      positivity
    rw [Nat.eq_zero_of_not_pos hzero, Nat.cast_zero, zero_div] at hoverflow
    linarith
  obtain ⟨m, e, hcarried, heq⟩ := exists_carried s hnum hden
  have he : ¬ e ≤ maxExponent := fun hle => absurd (hcarried.inRange.2 hle) (not_lt.2 hoverflow)
  rw [heq, if_pos (not_le.1 he)]
  rfl

/-- The double of a quotient stands for the nearest number that is one, and for none if the quotient
is out of range. -/
theorem value?_ofRatio_eq_some_iff {s : Bool} {num den : ℕ} {v : ℚ} (hden : 0 < den) :
    (ofRatio s num den).value? = some v ↔ Nearest (signed s (num / den)) v := by
  have hquotient : |signed s (num / den)| = (num : ℚ) / den := by
    rw [abs_signed, abs_of_nonneg (by positivity)]
  by_cases hrange : (num : ℚ) / den < overflowBound
  · obtain ⟨w, hvalue, hnearest⟩ := value?_ofRatio_of_inRange s hden hrange
    rw [hvalue, Option.some.injEq]
    constructor
    · rintro rfl
      exact hnearest
    · exact fun h => hnearest.unique h
  · rw [value?_ofRatio_of_overflow s hden (not_lt.1 hrange)]
    constructor
    · intro h
      cases h
    · intro h
      rw [← hquotient] at hrange
      exact absurd h.inRange hrange

/-! ## Canonical forms -/

theorem isCanonical_zero (s : Bool) : (zero s).IsCanonical := by
  cases s <;> decide

theorem isCanonical_ofRatio (s : Bool) (num : ℕ) {den : ℕ} (hden : 0 < den) :
    (ofRatio s num den).IsCanonical := by
  rcases Nat.eq_zero_or_pos num with rfl | hnum
  · rw [ofRatio, if_pos rfl]
    exact isCanonical_zero s
  · obtain ⟨m, e, hcarried, heq⟩ := exists_carried s hnum hden
    rw [heq]
    split
    · trivial
    · next he => exact ⟨hcarried.significand, hcarried.least, not_lt.1 he, hcarried.normal⟩

theorem ratio_pos (m : ℕ) (e : ℤ) : 0 < (ratio m e).2 := unscale_pos m Nat.one_pos _

theorem ratio_div (m : ℕ) (e : ℤ) : ((ratio m e).1 : ℚ) / (ratio m e).2 = m * 2 ^ e := by
  rw [ratio, unscale_div, Nat.cast_one, div_one, zpow_neg, div_inv_eq_mul]

theorem signed_natAbs_mul (m : ℤ) (q : ℚ) : signed (m < 0) (m.natAbs * q) = m * q := by
  by_cases hm : m < 0
  · have hcast : (m.natAbs : ℚ) = -m := by
      rw [Nat.cast_natAbs, abs_of_neg hm, Int.cast_neg]
    rw [signed, if_pos (decide_eq_true hm), hcast, neg_mul, neg_neg]
  · have hcast : (m.natAbs : ℚ) = m := by
      rw [Nat.cast_natAbs, abs_of_nonneg (not_lt.1 hm)]
    rw [signed, if_neg (by simpa using hm), hcast]

/-- The numbers that are doubles are those that the doubles of canonical form stand for. -/
theorem isDouble_iff_exists_isCanonical {v : ℚ} :
    IsDouble v ↔ ∃ x : Binary64, x.IsCanonical ∧ x.value? = some v := by
  constructor
  · intro h
    have hnearest : Nearest v v := h.nearest
    obtain ⟨m, e, -, hv⟩ := h
    have hden : 0 < (ratio m.natAbs e).2 := ratio_pos m.natAbs e
    refine ⟨ofRatio (m < 0) _ _, isCanonical_ofRatio _ (ratio m.natAbs e).1 hden, ?_⟩
    rwa [value?_ofRatio_eq_some_iff hden, ratio_div, signed_natAbs_mul, ← hv]
  · rintro ⟨x, hcanonical, hvalue⟩
    cases x with
    | nan => cases hvalue
    | infinite => cases hvalue
    | finite s m e =>
      obtain ⟨hm, hleast, hgreatest, -⟩ := hcanonical
      obtain rfl := Option.some.inj hvalue
      have hdouble : IsDouble (m * 2 ^ e) := ⟨m, e, ⟨hm, hleast, hgreatest⟩, by simp⟩
      cases s with
      | false => exact hdouble
      | true => exact hdouble.neg

end SheetIntake.Binary64
