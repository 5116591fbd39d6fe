import SheetIntake.Proofs.Mapping
import SheetIntake.Proofs.Text.Trim

/-! # Normal forms of headers

    Trimming and the full lower case of Unicode look at more than one character: what is cut off
    depends on the place, and so does the lower case of a capital sigma.  Neither shows in a normal
    form, as no form of sigma and no white space is kept.  So a normal form can be read off the
    header one character at a time (`Header.toList_normalForm`), and the characters that are kept
    are read as themselves.  Hence a normal form is its own normal form, and as headers are matched
    by it, they match as it does (`Header.matched_by_normal_form`). -/

namespace SheetIntake.Header

/-! ## Single characters -/

/-- What a character is to a normal form: those characters of its lower case that are kept. -/
def plainLetters (c : Char) : List Char := (Text.lowerChar c).filter isPlain

theorem isPlain_iff {c : Char} :
    isPlain c = true ↔ ('a' ≤ c ∧ c ≤ 'z') ∨ ('0' ≤ c ∧ c ≤ '9') := by
  have hletter : c.isLower = true ↔ 'a' ≤ c ∧ c ≤ 'z' :=
    Bool.and_eq_true_iff.trans (and_congr decide_eq_true_iff decide_eq_true_iff)
  have hdigit : c.isDigit = true ↔ '0' ≤ c ∧ c ≤ '9' :=
    Bool.and_eq_true_iff.trans (and_congr decide_eq_true_iff decide_eq_true_iff)
  rw [isPlain, Bool.or_eq_true, hletter, hdigit]

theorem lt_of_isPlain {c : Char} (h : isPlain c = true) : c.toNat < 0x80 := by
  rcases isPlain_iff.1 h with ⟨-, hle⟩ | ⟨-, hle⟩
  · have hle' : c.toNat ≤ 122 := hle
    omega
  · have hle' : c.toNat ≤ 57 := hle
    omega

/-- A character that is kept is its own lower case. -/
theorem plainLetters_of_isPlain {c : Char} (h : isPlain c = true) : plainLetters c = [c] := by
  have htable : ∀ n ∈ List.range 0x80, isPlain (Char.ofNat n) = true →
      plainLetters (Char.ofNat n) = [Char.ofNat n] := by decide +kernel
  have hcode : c.toNat ∈ List.range 0x80 := List.mem_range.2 (lt_of_isPlain h)
  exact Text.of_codes (P := fun c => isPlain c = true → plainLetters c = [c]) htable hcode h

/-- The code points of white space. -/
def blankCodes : List Nat :=
  [0x9, 0xA, 0xB, 0xC, 0xD, 0x20, 0x85, 0xA0, 0x1680] ++ List.range' 0x2000 11 ++
    [0x2028, 0x2029, 0x202F, 0x205F, 0x3000]

theorem mem_blankCodes {c : Char} (h : Text.isBlankChar c = true) : c.toNat ∈ blankCodes := by
  simp only [Text.isBlankChar, Bool.or_eq_true, Bool.and_eq_true, decide_eq_true_eq,
    beq_iff_eq] at h
  simp only [blankCodes, List.mem_append, List.mem_cons, List.mem_range'_1, List.not_mem_nil]
  omega

theorem plainLetters_of_isBlankChar {c : Char} (h : Text.isBlankChar c = true) :
    plainLetters c = [] := by
  have htable : ∀ n ∈ blankCodes, plainLetters (Char.ofNat n) = [] := by decide +kernel
  exact Text.of_codes (P := fun c => plainLetters c = []) htable (mem_blankCodes h)

/-! ## Headers -/

/-- Which sigma stands in the lower case of a text makes no difference to what is kept of it. -/
theorem filter_lowerFrom (before cs : List Char) :
    (Text.lowerFrom before cs).filter isPlain = cs.flatMap plainLetters := by
  induction cs generalizing before with
  | nil => rfl
  | cons c cs ih =>
    rw [Text.lowerFrom, List.filter_append, ih, List.flatMap_cons]
    congr 1
    split
    · next hsigma =>
      rw [hsigma]
      split <;> decide
    · rfl

/-- A normal form is read off the header one character at a time. -/
theorem toList_normalForm (header : String) :
    (normalForm header).toList = header.toList.flatMap plainLetters := by
  rw [normalForm, Text.lower, Text.trim, String.toList_ofList, String.toList_ofList,
    String.toList_ofList, filter_lowerFrom]
  exact Text.flatMap_trimChars (fun _ => plainLetters_of_isBlankChar) _

theorem isPlain_of_mem_normalForm {header : String} {c : Char}
    (h : c ∈ (normalForm header).toList) : isPlain c = true := by
  rw [toList_normalForm] at h
  obtain ⟨d, -, hd⟩ := List.mem_flatMap.1 h
  exact (List.mem_filter.1 hd).2

theorem normalForm_normalForm (header : String) :
    normalForm (normalForm header) = normalForm header := by
  rw [← String.toList_inj, toList_normalForm (normalForm header)]
  have hself : ∀ c ∈ (normalForm header).toList, plainLetters c = [c] :=
    fun c hc => plainLetters_of_isPlain (isPlain_of_mem_normalForm hc)
  rw [List.flatMap_congr hself, List.flatMap_singleton']

/-! ## Matching -/

/-- Headers with one normal form match alike. -/
theorem match?_congr {fields : List TargetField} {header other : String}
    (same : normalForm header = normalForm other) :
    match? fields header = match? fields other := by
  unfold match?
  rw [same]

/-- A header is matched by its normal form alone. -/
structure MatchedByNormalForm (mode : Mode) (header : String) : Prop where
  /-- The normal form has no other characters than lower case letters and digits. -/
  plain : ∀ c ∈ (normalForm header).toList, ('a' ≤ c ∧ c ≤ 'z') ∨ ('0' ≤ c ∧ c ≤ '9')
  normal : normalForm (normalForm header) = normalForm header
  /-- The normal form matches what the header matches. -/
  match_eq : match? mode.fields (normalForm header) = match? mode.fields header
  /-- This is a field of the mode, if it is anything. -/
  known : ∀ key, match? mode.fields header = some key → key ∈ mode.fields.map TargetField.key
  alike : ∀ other, normalForm other = normalForm header →
    match? mode.fields other = match? mode.fields header
  /-- A header of which nothing is kept matches nothing. -/
  empty : normalForm header = "" → match? mode.fields header = none

theorem matched_by_normal_form (mode : Mode) (header : String) :
    MatchedByNormalForm mode header := by
  constructor
  case plain => exact fun c hc => isPlain_iff.1 (isPlain_of_mem_normalForm hc)
  case normal => exact normalForm_normalForm header
  case match_eq => exact match?_congr (normalForm_normalForm header)
  case known => exact fun key => match?_mem
  case alike => exact fun other => match?_congr
  case empty =>
    intro hempty
    unfold match?
    rw [hempty]
    rfl

/-- The sign for kelvin and the dotted capital I become letters that are kept, sigma does not. -/
example : normalForm " \u212Aİ-Σ 1" = "ki1" := by decide +kernel

end SheetIntake.Header
