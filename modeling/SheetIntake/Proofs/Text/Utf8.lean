import Mathlib.Data.List.Basic
import SheetIntake.Text.Utf8

/-! # What is written as UTF-8 is read back

    A character is one byte below 0x80 or several bytes from 0x80 on, so the bytes of ASCII
    characters never occur inside another character (`utf8EncodeChar_beyond`).  The reader takes
    the bytes of one character to that character and stands between two characters again
    (`decodeFrom_char`); hence it reads back every list of characters (`decode_encode`). -/

namespace SheetIntake.Text.Utf8

@[simp] theorem encode_nil : encode [] = [] := rfl

@[simp] theorem encode_cons (c : Char) (cs : List Char) :
    encode (c :: cs) = String.utf8EncodeChar c ++ encode cs := rfl

/-! ## The bytes of a character -/

theorem toNat_byte {n : Nat} (h : n < 256) : (UInt8.ofNat n).toNat = n :=
  UInt8.toNat_ofNat_of_lt' h

theorem utf8EncodeChar_ascii {c : Char} (h : c.toNat < 0x80) :
    String.utf8EncodeChar c = [UInt8.ofNat c.toNat] := by
  have hle : c.val.toNat ≤ 0x7F := Nat.le_of_lt_succ h
  simp only [String.utf8EncodeChar, if_pos hle]
  rfl

theorem utf8EncodeChar_ne_nil (c : Char) : String.utf8EncodeChar c ≠ [] := by
  unfold String.utf8EncodeChar
  simp only
  split_ifs <;> simp

/-- No byte of a character beyond ASCII is the byte of an ASCII character. -/
theorem utf8EncodeChar_beyond {c : Char} (h : 0x80 ≤ c.toNat) :
    ∀ b ∈ String.utf8EncodeChar c, 0x80 ≤ b.toNat := by
  have hgt : ¬ c.val.toNat ≤ 0x7F := Nat.not_le.2 h
  simp only [String.utf8EncodeChar, if_neg hgt]
  split_ifs <;>
    · simp only [List.forall_mem_cons, List.not_mem_nil, false_imp_iff, implies_true, and_true,
        UInt8.toNat_ofNat']
      omega

/-! ## Byte after byte -/

theorem decodeFrom_emit {start offset : Nat} {p : Place} {b : UInt8} {c : Char}
    (h : move p b.toNat = .emit c) (bs : List UInt8) :
    decodeFrom start offset p (b :: bs) =
      (decodeFrom (offset + 1) (offset + 1) .between bs).map (c :: ·) := by
  rw [decodeFrom, h]

theorem decodeFrom_goTo {start offset : Nat} {p q : Place} {b : UInt8}
    (h : move p b.toNat = .goTo q) (bs : List UInt8) :
    decodeFrom start offset p (b :: bs) = decodeFrom start (offset + 1) q bs := by
  rw [decodeFrom, h]

/-- The last byte of a character. -/
theorem move_last {low high value b : Nat} (hlow : low ≤ b) (hhigh : b ≤ high) :
    move (.inside 0 low high value) b = .emit (Char.ofNat (value * 64 + (b - 0x80))) := by
  rw [move, if_pos ⟨hlow, hhigh⟩]

/-- A byte inside a character that is not its last one. -/
theorem move_on {missing low high value b : Nat} (hlow : low ≤ b) (hhigh : b ≤ high) :
    move (.inside (missing + 1) low high value) b =
      .goTo (.inside missing 0x80 0xBF (value * 64 + (b - 0x80))) := by
  rw [move, if_pos ⟨hlow, hhigh⟩]

/-- The first of two bytes. -/
theorem lead_two {b : Nat} (h : 0xC2 ≤ b) (h' : b < 0xE0) :
    lead b = .goTo (.inside 0 0x80 0xBF (b - 0xC0)) := by
  rw [lead, if_neg (by omega), if_neg (by omega), if_pos h']

/-- The first of three bytes, and the bounds of the second one: it must not make an over-long
form or a surrogate. -/
theorem lead_three {b : Nat} (h : 0xE0 ≤ b) (h' : b < 0xF0) :
    ∃ low high, lead b = .goTo (.inside 1 low high (b - 0xE0)) ∧
      (low = 0x80 ∨ b = 0xE0 ∧ low = 0xA0) ∧ (high = 0xBF ∨ b = 0xED ∧ high = 0x9F) := by
  by_cases hlow : b = 0xE0
  · subst hlow
    exact ⟨0xA0, 0xBF, rfl, by simp, by simp⟩
  · by_cases hhigh : b = 0xED
    · subst hhigh
      exact ⟨0x80, 0x9F, rfl, by simp, by simp⟩
    · refine ⟨0x80, 0xBF, ?_, by simp, by simp⟩
      rw [lead, if_neg (by omega), if_neg (by omega), if_neg (by omega), if_neg hlow,
        if_neg hhigh, if_pos h']

/-- The first of four bytes, and the bounds of the second one: it must not make an over-long
form or a code point beyond the last. -/
theorem lead_four {b : Nat} (h : 0xF0 ≤ b) (h' : b ≤ 0xF4) :
    ∃ low high, lead b = .goTo (.inside 2 low high (b - 0xF0)) ∧
      (low = 0x80 ∨ b = 0xF0 ∧ low = 0x90) ∧ (high = 0xBF ∨ b = 0xF4 ∧ high = 0x8F) := by
  by_cases hlow : b = 0xF0
  · subst hlow
    exact ⟨0x90, 0xBF, rfl, by simp, by simp⟩
  · by_cases hhigh : b = 0xF4
    · subst hhigh
      exact ⟨0x80, 0x8F, rfl, by simp, by simp⟩
    · refine ⟨0x80, 0xBF, ?_, by simp, by simp⟩
      rw [lead, if_neg (by omega), if_neg (by omega), if_neg (by omega), if_neg (by omega),
        if_neg (by omega), if_neg (by omega), if_neg hlow, if_pos (by omega)]

/-! ## Reading a character

    One lemma for each number of bytes.  The first byte holds the high bits of the code point and
    every further one six more, so putting them together again gives the code point. -/

section
variable {n : Nat}

/-- A byte that continues a character holds six bits of it. -/
theorem toNat_continuation (m : Nat) : (UInt8.ofNat (m % 64 + 128)).toNat = m % 64 + 128 :=
  toNat_byte (by omega)

theorem decodeFrom_two (h : 0x80 ≤ n) (h' : n < 0x800) (offset : Nat) (bs : List UInt8) :
    ∃ next, decodeFrom offset offset .between
        (UInt8.ofNat (n / 64 % 32 + 192) :: UInt8.ofNat (n % 64 + 128) :: bs) =
      (decodeFrom next next .between bs).map (Char.ofNat n :: ·) := by
  have hfirst : (UInt8.ofNat (n / 64 % 32 + 192)).toNat = n / 64 + 192 := by
    rw [toNat_byte (by omega)]
    omega
  have hvalue : (n / 64 + 192 - 0xC0) * 64 + (n % 64 + 128 - 0x80) = n := by omega
  rw [decodeFrom_goTo (by rw [hfirst]; exact lead_two (by omega) (by omega))]
  refine ⟨_, decodeFrom_emit ?_ bs⟩
  rw [toNat_continuation, move_last (by omega) (by omega), hvalue]

theorem decodeFrom_three (h : 0x800 ≤ n) (h' : n < 0x10000)
    (valid : n < 0xD800 ∨ 0xDFFF < n) (offset : Nat) (bs : List UInt8) :
    ∃ next, decodeFrom offset offset .between
        (UInt8.ofNat (n / 4096 % 16 + 224) :: UInt8.ofNat (n / 64 % 64 + 128) ::
          UInt8.ofNat (n % 64 + 128) :: bs) =
      (decodeFrom next next .between bs).map (Char.ofNat n :: ·) := by
  have hfirst : (UInt8.ofNat (n / 4096 % 16 + 224)).toNat = n / 4096 + 224 := by
    rw [toNat_byte (by omega)]
    omega
  have hvalue : ((n / 4096 + 224 - 0xE0) * 64 + (n / 64 % 64 + 128 - 0x80)) * 64 +
      (n % 64 + 128 - 0x80) = n := by omega
  obtain ⟨low, high, hlead, hlow, hhigh⟩ :=
    lead_three (b := n / 4096 + 224) (by omega) (by omega)
  -- The second byte keeps its bounds, as the code point is neither too small nor a surrogate.
  rw [decodeFrom_goTo (by rw [hfirst]; exact hlead),
    decodeFrom_goTo (by rw [toNat_continuation]; exact move_on (by omega) (by omega))]
  refine ⟨_, decodeFrom_emit ?_ bs⟩
  rw [toNat_continuation, move_last (by omega) (by omega), hvalue]

theorem decodeFrom_four (h : 0x10000 ≤ n) (h' : n < 0x110000) (offset : Nat) (bs : List UInt8) :
    ∃ next, decodeFrom offset offset .between
        (UInt8.ofNat (n / 262144 % 8 + 240) :: UInt8.ofNat (n / 4096 % 64 + 128) ::
          UInt8.ofNat (n / 64 % 64 + 128) :: UInt8.ofNat (n % 64 + 128) :: bs) =
      (decodeFrom next next .between bs).map (Char.ofNat n :: ·) := by
  have hfirst : (UInt8.ofNat (n / 262144 % 8 + 240)).toNat = n / 262144 + 240 := by
    rw [toNat_byte (by omega)]
    omega
  have hvalue : (((n / 262144 + 240 - 0xF0) * 64 + (n / 4096 % 64 + 128 - 0x80)) * 64 +
      (n / 64 % 64 + 128 - 0x80)) * 64 + (n % 64 + 128 - 0x80) = n := by omega
  obtain ⟨low, high, hlead, hlow, hhigh⟩ :=
    lead_four (b := n / 262144 + 240) (by omega) (by omega)
  rw [decodeFrom_goTo (by rw [hfirst]; exact hlead),
    decodeFrom_goTo (by rw [toNat_continuation]; exact move_on (by omega) (by omega)),
    decodeFrom_goTo (by rw [toNat_continuation]; exact move_on (by omega) (by omega))]
  refine ⟨_, decodeFrom_emit ?_ bs⟩
  rw [toNat_continuation, move_last (by omega) (by omega), hvalue]

end

/-- The bytes of a character are read as this character. -/
theorem decodeFrom_char (c : Char) (offset : Nat) (bs : List UInt8) :
    ∃ next, decodeFrom offset offset .between (String.utf8EncodeChar c ++ bs) =
      (decodeFrom next next .between bs).map (c :: ·) := by
  have hvalid : c.toNat < 0xD800 ∨ 0xDFFF < c.toNat ∧ c.toNat < 0x110000 := c.valid
  have hc : c.val.toNat = c.toNat := rfl
  generalize hn : c.toNat = n at hvalid hc
  have hof : c = Char.ofNat n := hn ▸ (Char.ofNat_toNat c).symm
  simp only [String.utf8EncodeChar, hc]
  rw [hof]
  split_ifs with h1 h2 h3
  · refine ⟨_, decodeFrom_emit ?_ bs⟩
    rw [toNat_byte (by omega), move, lead, if_pos (by omega)]
  · exact decodeFrom_two (by omega) (by omega) offset bs
  · exact decodeFrom_three (by omega) (by omega) (by omega) offset bs
  · exact decodeFrom_four (by omega) (by omega) offset bs

/-! ## Reading a text -/

theorem decodeFrom_encode (cs : List Char) (offset : Nat) :
    decodeFrom offset offset .between (encode cs) = .ok cs := by
  induction cs generalizing offset with
  | nil => rfl
  | cons c cs ih =>
    obtain ⟨next, hnext⟩ := decodeFrom_char c offset (encode cs)
    rw [encode_cons, hnext, ih]
    rfl

theorem decode_encode (cs : List Char) : decode (encode cs) = .ok cs := decodeFrom_encode cs 0

/-! ## The byte order mark -/

/-- The character whose bytes are the byte order mark. -/
def markChar : Char := '\uFEFF'

theorem utf8EncodeChar_markChar : String.utf8EncodeChar markChar = mark := by decide

theorem stripMark_mark (bs : List UInt8) : stripMark (mark ++ bs) = bs := rfl

/-- Only a text that starts with the mark has bytes that start with it. -/
theorem head_of_encode_eq_mark {cs : List Char} {bs : List UInt8} (h : encode cs = mark ++ bs) :
    cs.head? = some markChar := by
  obtain ⟨next, hnext⟩ := decodeFrom_char markChar 0 bs
  rw [utf8EncodeChar_markChar, ← h, decodeFrom_encode] at hnext
  cases hrest : decodeFrom next next .between bs with
  | error e => simp [hrest, Except.map] at hnext
  | ok ds =>
    obtain rfl : cs = markChar :: ds := by simpa [hrest, Except.map] using hnext
    rfl

theorem stripMark_of_ne {bs : List UInt8} (h : ∀ rest, bs ≠ mark ++ rest) : stripMark bs = bs := by
  unfold stripMark
  split
  · rename_i rest
    exact absurd rfl (h rest)
  · rfl

theorem stripMark_encode {cs : List Char} (h : cs.head? ≠ some markChar) :
    stripMark (encode cs) = encode cs :=
  stripMark_of_ne fun _ hmark => h (head_of_encode_eq_mark hmark)

/-- Characters without one byte order mark at their front. -/
def withoutMark (cs : List Char) : List Char := if cs.head? = some markChar then cs.tail else cs

/-- To take the mark off the bytes of a text is to take it off the text. -/
theorem stripMark_encode_eq (cs : List Char) : stripMark (encode cs) = encode (withoutMark cs) := by
  by_cases h : cs.head? = some markChar
  · obtain ⟨rest, rfl⟩ := List.head?_eq_some_iff.1 h
    rw [withoutMark, if_pos h, List.tail_cons, encode_cons, utf8EncodeChar_markChar, stripMark_mark]
  · rw [withoutMark, if_neg h, stripMark_encode h]

end SheetIntake.Text.Utf8
