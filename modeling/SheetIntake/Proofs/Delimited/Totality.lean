import SheetIntake.Proofs.Delimited.Sniffing

/-! # Every delimited upload is read

    A file is read as text, and its records are cut at symbols that are ASCII: the separator that
    is given or guessed, quotation marks and line breaks.  None of these is a part of another
    character, so every cell is text again and no bytes are refused, be they UTF-8 or not
    (`recordsOf_eq`).  What is left to go wrong is that there is nothing to import: at most one
    record has something in it.  Else all full records but the first are the rows. -/

namespace SheetIntake.Delimited

/-! ## The separator -/

/-- The character that separates the cells of a file. -/
def separatorOf (bytes : List UInt8) : Option UInt8 → Char
  | some b => Char.ofNat b.toNat
  | none => sniff (decodeText bytes)

theorem toNat_ofNat_byte (b : UInt8) : (Char.ofNat b.toNat).toNat = b.toNat := by
  have hvalid : b.toNat.isValidChar := .inl (by have := b.toNat_lt; omega)
  rw [Char.toNat_ofNat, if_pos hvalid]

section
variable {bytes : List UInt8} {separator : Option UInt8}

/-- No byte of the separator is shared with another character. -/
theorem separatorOf_ascii (h : ∀ b ∈ separator, b.toNat < 0x80) :
    (separatorOf bytes separator).toNat < 0x80 := by
  cases separator with
  | none => exact (IsSeparator.of_candidate (sniff_mem _)).ascii
  | some b =>
    rw [separatorOf, toNat_ofNat_byte]
    exact h b rfl

theorem asciiByte_separatorOf :
    asciiByte (separatorOf bytes separator) =
      separator.getD (UInt8.ofNat (sniff (decodeText bytes)).toNat) := by
  cases separator with
  | none => rfl
  | some b =>
    show UInt8.ofNat (Char.ofNat b.toNat).toNat = b
    rw [toNat_ofNat_byte, UInt8.ofNat_toNat]

/-! ## The records -/

/-- The records of a file, split character by character. -/
def textRecords (bytes : List UInt8) (separator : Option UInt8) : List (List String) :=
  (textCells (separatorOf bytes separator) (Text.Utf8.withoutMark (decodeText bytes))).map
    (·.map String.ofList)

/-- Bytes of any kind have records: those of their text. -/
theorem recordsOf_eq (h : ∀ b ∈ separator, b.toNat < 0x80) :
    recordsOf bytes separator = .ok (textRecords bytes separator) := by
  have hascii : (separatorOf bytes separator).toNat < 0x80 := separatorOf_ascii h
  have hread := readRecords_eq hascii (Text.Utf8.stripMark_encode_eq (decodeText bytes))
  rwa [asciiByte_separatorOf] at hread

/-- Whatever its bytes are, a delimited file is never unreadable.  There is nothing to import
exactly when at most one record has something in it; else there is a row for each of these
records but the first. -/
theorem decode_of_any_bytes (bytes : List UInt8) (separator : Option UInt8)
    (h : ∀ b ∈ separator, b.toNat < 0x80) :
    recordsOf bytes separator = .ok (textRecords bytes separator) ∧
      (∀ detail, decode bytes separator ≠ .error (.unreadable detail)) ∧
      (decode bytes separator = .error .noRows ↔
        Table.fullCount (textRecords bytes separator) ≤ 1) ∧
      (1 < Table.fullCount (textRecords bytes separator) →
        ∃ t, decode bytes separator = .ok t ∧
          t.rows.length + 1 = Table.fullCount (textRecords bytes separator)) := by
  have hrecords : recordsOf bytes separator = .ok (textRecords bytes separator) := recordsOf_eq h
  refine ⟨hrecords, ?_⟩
  rw [decode_eq, hrecords]
  rcases Table.ofRecords?_cases (textRecords bytes separator) with
    ⟨hnone, hfew⟩ | ⟨t, htable, hrows, hcount⟩
  · simp only [hnone]
    refine ⟨by simp, iff_of_true trivial hfew, fun hmany => ?_⟩
    omega
  · have hpos : 0 < t.rows.length := List.length_pos_iff.2 hrows
    simp only [htable]
    refine ⟨by simp, iff_of_false (by simp) (by omega), fun _ => ⟨t, rfl, hcount⟩⟩

end

/-- Latin-1 with a byte order mark, an old line break, a blank record and a quotation mark that
is never closed. -/
def latinBytes : List UInt8 :=
  [0xEF, 0xBB, 0xBF, 0x61, 0x09, 0x62, 0x0D, 0x20, 0x09, 0x0D, 0xE9, 0x09, 0x22, 0x63, 0x0D, 0x0A]

theorem latin_bytes_decoded :
    (∀ b ∈ some (0x09 : UInt8), b.toNat < 0x80) ∧
      Table.fullCount (textRecords latinBytes (some 0x09)) = 2 ∧
      (∃ t, decode latinBytes (some 0x09) = .ok t ∧ t.rows.length + 1 = 2) ∧
      decode (latinBytes.take 10) none = .error .noRows :=
  have htab : ∀ b ∈ some (0x09 : UInt8), b.toNat < 0x80 := by simp
  have hcount : Table.fullCount (textRecords latinBytes (some 0x09)) = 2 := by decide +kernel
  have hrow := (decode_of_any_bytes latinBytes (some 0x09) htab).2.2.2
  have hempty := (decode_of_any_bytes (latinBytes.take 10) none (by simp)).2.2.1
  ⟨htab, hcount, hcount ▸ hrow (by omega), hempty.2 (by decide +kernel)⟩

/-- A separator beyond ASCII can cut a character in two. -/
example : (recordsOf [0xC3, 0xA9] (some 0xA9)).isOk = false := by decide +kernel

end SheetIntake.Delimited
