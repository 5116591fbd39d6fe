import SheetIntake.Calendar.Date
import SheetIntake.Number.Numeral
import SheetIntake.Proofs.Text.Trim

/-! # Decimal digits

    A run of digits has a value, and zeros at its front do not change it.  What `padded` writes
    is such a run: it has the number as its value, and the wanted width unless the number is too
    large for it. -/

namespace SheetIntake

/-! ## Runs of digits -/

/-- Digits and nothing else, at least `least` and at most `most` of them. -/
structure Digits (least most : Nat) (ds : List Char) : Prop where
  isDigit : ∀ c ∈ ds, c.isDigit = true
  enough : least ≤ ds.length
  notMore : ds.length ≤ most

instance (least most : Nat) : DecidablePred (Digits least most) := fun ds =>
  decidable_of_iff (ds.all Char.isDigit = true ∧ least ≤ ds.length ∧ ds.length ≤ most)
    ⟨fun ⟨h, hl, hm⟩ => ⟨List.all_eq_true.1 h, hl, hm⟩,
      fun ⟨h, hl, hm⟩ => ⟨List.all_eq_true.2 h, hl, hm⟩⟩

section
variable {least most : Nat} {ds : List Char}

theorem Digits.mono {least' most' : Nat} (h : Digits least most ds) (hleast : least' ≤ least)
    (hmost : most ≤ most') : Digits least' most' ds where
  isDigit := h.isDigit
  enough := Nat.le_trans hleast h.enough
  notMore := Nat.le_trans h.notMore hmost

/-- A run has no more characters than the text that it stands in. -/
theorem Digits.within_append (h : Digits least most ds) (rest : List Char) :
    Digits least (ds ++ rest).length ds where
  isDigit := h.isDigit
  enough := h.enough
  notMore := by
    rw [List.length_append]
    exact Nat.le_add_right ..

theorem Digits.solid (h : Digits least most ds) : Text.Solid ds :=
  fun c hc => Text.not_isBlankChar_of_isDigit (h.isDigit c hc)

/-- A run with something in it starts with a digit. -/
theorem Digits.exists_cons (h : Digits least most ds) (hleast : 0 < least) :
    ∃ c cs, ds = c :: cs ∧ c.isDigit = true := by
  have hlength : 0 < ds.length := Nat.lt_of_lt_of_le hleast h.enough
  obtain ⟨c, cs, rfl⟩ := List.exists_cons_of_length_pos hlength
  exact ⟨c, cs, rfl, h.isDigit c (List.mem_cons_self ..)⟩

end

theorem ne_of_isDigit {c d : Char} (h : c.isDigit = true) (hd : d.isDigit = false) : c ≠ d := by
  rintro rfl
  rw [hd] at h
  cases h

/-- The text goes on with something else than a digit, or ends. -/
def NoDigitFirst (cs : List Char) : Prop := ∀ c ∈ cs.head?, c.isDigit = false

theorem noDigitFirst_nil : NoDigitFirst [] := by
  intro c hc
  cases hc

theorem noDigitFirst_cons {c : Char} {cs : List Char} (h : c.isDigit = false) :
    NoDigitFirst (c :: cs) := by
  intro d hd
  obtain rfl : c = d := Option.some.inj hd
  exact h

/-- A run of digits ends where something else follows. -/
theorem takeWhile_digits {ds rest : List Char} (h : ∀ c ∈ ds, c.isDigit = true)
    (hrest : NoDigitFirst rest) : (ds ++ rest).takeWhile Char.isDigit = ds := by
  rw [List.takeWhile_append_of_pos h]
  cases rest with
  | nil => simp
  | cons c cs =>
    have hc : c.isDigit = false := hrest c rfl
    rw [List.takeWhile_cons_of_neg (by simp [hc]), List.append_nil]

theorem dropWhile_digits {ds rest : List Char} (h : ∀ c ∈ ds, c.isDigit = true)
    (hrest : NoDigitFirst rest) : (ds ++ rest).dropWhile Char.isDigit = rest := by
  rw [List.dropWhile_append_of_pos h]
  cases rest with
  | nil => rfl
  | cons c cs =>
    have hc : c.isDigit = false := hrest c rfl
    rw [List.dropWhile_cons_of_neg (by simp [hc])]

/-! ## Values -/

theorem digitsValue_eq (ds : List Char) : digitsValue ds = Nat.ofDigitChars 10 ds 0 := by
  simp only [digitsValue, Nat.ofDigitChars, digitValue, Nat.mul_comm]

/-! ## Padded numbers -/

namespace Date

theorem digitsValue_padded (width n : Nat) : digitsValue (padded width n) = n := by
  rw [padded, digitsValue_eq, Nat.ofDigitChars_append, Nat.ofDigitChars_replicate_zero,
    Nat.mul_zero, Nat.ofDigitChars_ten_toDigits]

theorem isDigit_padded {width n : Nat} {c : Char} (h : c ∈ padded width n) : c.isDigit = true := by
  rcases List.mem_append.1 h with hzero | hdigit
  · rw [List.eq_of_mem_replicate hzero]
    rfl
  · exact Nat.isDigit_of_mem_toDigits (by decide) (by decide) hdigit

theorem length_padded (width n : Nat) :
    (padded width n).length = max width (Nat.toDigits 10 n).length := by
  rw [padded, List.length_append, List.length_replicate]
  omega

/-- A padded number has the width or more digits. -/
theorem digits_padded (width n : Nat) :
    Digits width (padded width n).length (padded width n) where
  isDigit := fun _ => isDigit_padded
  enough := by
    rw [length_padded]
    exact Nat.le_max_left ..
  notMore := Nat.le_refl _

/-- A number that is not too large is padded to the width. -/
theorem digits_padded_of_lt {width n : Nat} (hwidth : 0 < width) (h : n < Nat.pow 10 width) :
    Digits width width (padded width n) where
  isDigit := fun _ => isDigit_padded
  enough := (digits_padded width n).enough
  notMore := by
    have hlength := (Nat.length_toDigits_le_iff (by decide) hwidth).2 h
    rw [length_padded]
    omega

end Date

end SheetIntake
