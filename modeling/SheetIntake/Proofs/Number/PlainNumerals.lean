import SheetIntake.Proofs.Number.Integers
import SheetIntake.Text.Case

/-! # Plain numerals

    The plain numeral of an integer is its digits and nothing else, but for a minus in front of a
    negative one.  It is what integers are printed as (`plainNumeral_toString`).  As a text of the
    grammar of numerals it writes the integer, so up to 53 bits the integer is read off it again
    (`PlainNumeral.integer?_eq`), and neither trimming nor a change of case does anything to it. -/

namespace SheetIntake

/-! ## Digits of natural numbers -/

/-- The digits of a natural number, with no more zeros in front than it takes. -/
structure PlainDigits (ds : List Char) (k : ℕ) : Prop where
  ne_nil : ds ≠ []
  isDigit : ∀ c ∈ ds, c.isDigit = true
  value : digitsValue ds = k
  /-- Only zero itself starts with one. -/
  front : ds.head? = some '0' → ds = ['0']

theorem head?_toDigits_ne_zero {k : ℕ} (hk : 0 < k) : (Nat.toDigits 10 k).head? ≠ some '0' := by
  induction k using Nat.strongRecOn with
  | ind k ih =>
    rw [Nat.toDigits_eq_if (by decide)]
    split
    · next hless =>
      have htable : ∀ d < 10, 0 < d → [d.digitChar].head? ≠ some '0' := by decide
      exact htable k hless hk
    · -- The first digit is that of the tenth part, which is not zero either.
      rw [List.head?_append_of_ne_nil _ Nat.toDigits_ne_nil]
      exact ih (k / 10) (by omega) (by omega)

theorem plainDigits_toDigits (k : ℕ) : PlainDigits (Nat.toDigits 10 k) k where
  ne_nil := Nat.toDigits_ne_nil
  isDigit c hc := Nat.isDigit_of_mem_toDigits (by decide) (by decide) hc
  value := by rw [digitsValue_eq, Nat.ofDigitChars_ten_toDigits]
  front h := by
    rcases Nat.eq_zero_or_pos k with rfl | hk
    · rfl
    · exact absurd h (head?_toDigits_ne_zero hk)

/-- Digits are a numeral without a point and without an exponent. -/
theorem PlainDigits.unsigned {ds : List Char} {k : ℕ} (h : PlainDigits ds k) (negative : Bool) :
    Numeral.Unsigned negative ds { negative, coefficient := k, exponent := 0 } := by
  have hne : ds ++ [] ≠ [] := by simpa using h.ne_nil
  have hunsigned := @Numeral.Unsigned.mk negative ds [] [] [] 0 h.isDigit .absent .absent hne
  simpa [h.value] using hunsigned

/-! ## Numerals of integers -/

/-- The text is the plain numeral of an integer. -/
inductive PlainNumeral : List Char → ℤ → Prop where
  | natural {ds : List Char} {k : ℕ} (h : PlainDigits ds k) : PlainNumeral ds k
  | negative {ds : List Char} {k : ℕ} (h : PlainDigits ds k) (pos : 0 < k) :
      PlainNumeral ('-' :: ds) (-k)

/-- Integers are printed as their plain numerals. -/
theorem plainNumeral_toString (n : ℤ) : PlainNumeral (toString n).toList n := by
  cases n with
  | ofNat k =>
    have hchars : (toString (Int.ofNat k)).toList = Nat.toDigits 10 k := Nat.toList_repr
    rw [hchars]
    exact .natural (plainDigits_toDigits k)
  | negSucc k =>
    have hchars : (toString (Int.negSucc k)).toList = '-' :: Nat.toDigits 10 (k + 1) := by
      change ("-" ++ (k + 1).repr).toList = _
      rw [String.toList_append, Nat.toList_repr]
      rfl
    rw [hchars]
    exact .negative (plainDigits_toDigits (k + 1)) (Nat.succ_pos k)

/-! ## Their characters -/

/-- The codes of the minus and of the digits. -/
def plainCodes : List ℕ := '-'.toNat :: List.range' 48 10

theorem mem_plainCodes_of_isDigit {c : Char} (h : c.isDigit = true) : c.toNat ∈ plainCodes := by
  rw [Char.isDigit, Bool.and_eq_true, decide_eq_true_iff, decide_eq_true_iff] at h
  have hleast : 48 ≤ c.toNat := h.1
  have hmost : c.toNat ≤ 57 := h.2
  refine List.mem_cons_of_mem _ (List.mem_range'_1.2 ?_)
  omega

/-- Where no character has a lower case of its own, neither has the text. -/
theorem Text.lowerFrom_eq_self {cs : List Char} (h : ∀ c ∈ cs, c ≠ 'Σ' ∧ lowerChar c = [c])
    (before : List Char) : lowerFrom before cs = cs := by
  induction cs generalizing before with
  | nil => rfl
  | cons c cs ih =>
    obtain ⟨hsigma, hself⟩ := h c (List.mem_cons_self ..)
    rw [lowerFrom, if_neg hsigma, hself, ih fun d hd => h d (List.mem_cons_of_mem c hd)]
    rfl

namespace PlainNumeral

variable {cs : List Char} {s : String} {n : ℤ}

theorem ne_nil (h : PlainNumeral cs n) : cs ≠ [] := by
  cases h with
  | natural h => exact h.ne_nil
  | negative h => exact List.cons_ne_nil _ _

/-- What holds of the minus and of the digits holds of all characters. -/
theorem forall_mem {P : Char → Prop} (h : PlainNumeral cs n)
    (table : ∀ k ∈ plainCodes, P (Char.ofNat k)) : ∀ c ∈ cs, P c := by
  have hcodes : ∀ c ∈ cs, c.toNat ∈ plainCodes := by
    cases h with
    | natural h => exact fun c hc => mem_plainCodes_of_isDigit (h.isDigit c hc)
    | negative h =>
      refine List.forall_mem_cons.2 ⟨List.mem_cons_self .., ?_⟩
      exact fun c hc => mem_plainCodes_of_isDigit (h.isDigit c hc)
  exact fun c hc => Text.of_codes table (hcodes c hc)

theorem clean (h : PlainNumeral s.toList n) : Text.Clean s := by
  have hsolid : ∀ c ∈ s.toList, Text.isBlankChar c = false :=
    h.forall_mem (P := fun c => Text.isBlankChar c = false) (by decide)
  exact Text.clean_of_solid h.ne_nil hsolid

theorem upper_eq (h : PlainNumeral s.toList n) : Text.upper s = s := by
  have hself : ∀ c ∈ s.toList, Text.upperChar c = [c] :=
    h.forall_mem (P := fun c => Text.upperChar c = [c]) (by decide)
  rw [Text.upper, List.flatMap_congr hself, List.flatMap_singleton', String.ofList_toList]

theorem lower_eq (h : PlainNumeral s.toList n) : Text.lower s = s := by
  have hself : ∀ c ∈ s.toList, c ≠ 'Σ' ∧ Text.lowerChar c = [c] :=
    h.forall_mem (P := fun c => c ≠ 'Σ' ∧ Text.lowerChar c = [c]) (by decide)
  rw [Text.lower, Text.lowerFrom_eq_self hself, String.ofList_toList]

/-! ## What is read off them -/

theorem writes (h : PlainNumeral s.toList n) : Writes s n := by
  generalize hcs : s.toList = cs at h
  rw [Writes, hcs]
  cases h with
  | @natural _ k h =>
    have hspelled := @Numeral.Spelled.mk [] cs ⟨false, k, 0⟩ .absent (h.unsigned false)
    exact ⟨_, hspelled, by simp [Numeral.value, Binary64.signed]⟩
  | @negative ds k h =>
    have hspelled := @Numeral.Spelled.mk ['-'] ds ⟨true, k, 0⟩ .minus (h.unsigned true)
    exact ⟨_, hspelled, by simp [Numeral.value, Binary64.signed]⟩

/-- Up to 53 bits an integer is read off its plain numeral. -/
theorem integer?_eq (h : PlainNumeral s.toList n) (hn : n.natAbs ≤ 2 ^ 53) :
    Coercion.integer? s = some n := by
  refine Coercion.integer?_of_writes hn ?_
  rw [h.clean.trimmed]
  exact h.writes

end PlainNumeral

end SheetIntake
