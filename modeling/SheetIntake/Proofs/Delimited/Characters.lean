import SheetIntake.Delimited.Decode
import SheetIntake.Proofs.Text.Utf8

/-! # Records of bytes are records of characters

    The reader takes the bytes of a text, but what it looks for are characters.  If the
    separator is an ASCII character, every character is spelled by one byte with the same
    meaning or by bytes that have none (`spells_utf8`), and a reader that meets a symbol without
    meaning goes where it stays for all further ones (`Phase.onPlain`).  So the cells of the bytes
    are the spelled cells of the characters (`cellsFrom_spelled`), and reading the records of a
    text never fails (`readRecords_eq`). -/

namespace SheetIntake.Delimited

variable {σ τ : Type}

/-! ## Cells without offsets -/

/-- The cells of the records that a reader finds when it reads on. -/
def cellsFrom (m : Marks σ) (p : Phase) (cells : List (List σ)) (cell : List σ) (cs : List σ) :
    List (List (List σ)) :=
  (scan m 0 0 p cells cell cs).map Record.cells

/-- Where a record stands has no influence on its cells. -/
theorem map_cells_scan (m : Marks σ) (here start : Nat) (p : Phase) (cells : List (List σ))
    (cell cs : List σ) :
    (scan m here start p cells cell cs).map Record.cells = cellsFrom m p cells cell cs := by
  have hfree : ∀ here start here' start',
      (scan m here start p cells cell cs).map Record.cells =
        (scan m here' start' p cells cell cs).map Record.cells := by
    induction cs generalizing p cells cell with
    | nil => cases p <;> simp [scan]
    | cons c cs ih =>
      intro here start here' start'
      simp only [scan]
      cases m.act p c with
      | skip next => exact ih next cells cell _ _ _ _
      | add next => exact ih next cells (c :: cell) _ _ _ _
      | endCell => exact ih .cellStart (cell.reverse :: cells) [] _ _ _ _
      | endRecord =>
        simp only [List.map_cons, List.cons.injEq, true_and]
        exact ih .recordStart [] [] _ _ _ _
  exact hfree here start 0 0

section
variable {m : Marks σ} {p next : Phase} {cells : List (List σ)} {cell cs : List σ} {c : σ}

@[simp] theorem cellsFrom_recordStart_nil : cellsFrom m .recordStart cells cell [] = [] := rfl

/-- A text that ends within a record ends the record. -/
theorem cellsFrom_nil (h : p ≠ .recordStart) :
    cellsFrom m p cells cell [] = [(cell.reverse :: cells).reverse] := by
  cases p with
  | recordStart => exact absurd rfl h
  | cellStart | bare | quoted | quoteSeen => rfl

theorem cellsFrom_skip (h : m.act p c = .skip next) :
    cellsFrom m p cells cell (c :: cs) = cellsFrom m next cells cell cs := by
  rw [cellsFrom, scan, h, map_cells_scan]

theorem cellsFrom_add (h : m.act p c = .add next) :
    cellsFrom m p cells cell (c :: cs) = cellsFrom m next cells (c :: cell) cs := by
  rw [cellsFrom, scan, h, map_cells_scan]

theorem cellsFrom_endCell (h : m.act p c = .endCell) :
    cellsFrom m p cells cell (c :: cs) = cellsFrom m .cellStart (cell.reverse :: cells) [] cs := by
  rw [cellsFrom, scan, h, map_cells_scan]

theorem cellsFrom_endRecord (h : m.act p c = .endRecord) :
    cellsFrom m p cells cell (c :: cs) =
      (cell.reverse :: cells).reverse :: cellsFrom m .recordStart [] [] cs := by
  rw [cellsFrom, scan, h, List.map_cons, map_cells_scan]

end

/-! ## Symbols without meaning -/

/-- The symbol has a meaning. -/
def Marks.isMark (m : Marks σ) (c : σ) : Bool := m.isSeparator c || m.isQuote c || m.isBreak c

/-- Where a symbol without meaning leads. -/
def Phase.onPlain : Phase → Phase
  | .recordStart | .cellStart | .bare | .quoteSeen => .bare
  | .quoted => .quoted

@[simp] theorem Phase.onPlain_onPlain (p : Phase) : p.onPlain.onPlain = p.onPlain := by
  cases p <;> rfl

theorem Marks.act_plain {m : Marks σ} {c : σ} (h : m.isMark c = false) (p : Phase) :
    m.act p c = .add p.onPlain := by
  simp only [isMark, Bool.or_eq_false_iff] at h
  cases p <;> simp [act, atCellStart, Phase.onPlain, h]

/-- Symbols without meaning all belong to the cell. -/
theorem cellsFrom_plain {m : Marks σ} {us : List σ} (h : ∀ u ∈ us, m.isMark u = false)
    (hne : us ≠ []) (p : Phase) (cells : List (List σ)) (cell rest : List σ) :
    cellsFrom m p cells cell (us ++ rest) =
      cellsFrom m p.onPlain cells (us.reverse ++ cell) rest := by
  induction us generalizing p cell with
  | nil => exact absurd rfl hne
  | cons u us ih =>
    obtain ⟨hu, hus⟩ := List.forall_mem_cons.1 h
    rw [List.cons_append, cellsFrom_add (m.act_plain hu p)]
    cases us with
    | nil => rfl
    | cons v vs =>
      -- The phase reached with the first symbol is the one of all further ones.
      rw [ih hus (List.cons_ne_nil v vs)]
      simp

/-! ## Spelling -/

/-- Two symbols have the same meaning, each among its own marks. -/
structure SameMeaning (m : Marks σ) (c : σ) (m' : Marks τ) (u : τ) : Prop where
  separator : m'.isSeparator u = m.isSeparator c
  quote : m'.isQuote u = m.isQuote c
  isBreak : m'.isBreak u = m.isBreak c

theorem SameMeaning.act {m : Marks σ} {c : σ} {m' : Marks τ} {u : τ} (h : SameMeaning m c m' u)
    (p : Phase) : m'.act p u = m.act p c := by
  cases p <;> simp only [Marks.act, Marks.atCellStart, h.separator, h.quote, h.isBreak]

theorem SameMeaning.isMark {m : Marks σ} {c : σ} {m' : Marks τ} {u : τ}
    (h : SameMeaning m c m' u) : m'.isMark u = m.isMark c := by
  simp only [Marks.isMark, h.separator, h.quote, h.isBreak]

/-- Every symbol with a meaning is spelled by one symbol that has the same, and every other one
by symbols that have none. -/
structure Spells (m : Marks σ) (m' : Marks τ) (spell : σ → List τ) : Prop where
  marked : ∀ c, m.isMark c = true → ∃ u, spell c = [u] ∧ SameMeaning m c m' u
  plain : ∀ c, m.isMark c = false → spell c ≠ [] ∧ ∀ u ∈ spell c, m'.isMark u = false

/-- What a spelled text holds are the spelled cells of the text. -/
theorem cellsFrom_spelled {m : Marks σ} {m' : Marks τ} {spell : σ → List τ}
    (h : Spells m m' spell) (p : Phase) (cells : List (List σ)) (cell cs : List σ) :
    cellsFrom m' p (cells.map (·.flatMap spell)) (cell.reverse.flatMap spell).reverse
        (cs.flatMap spell) =
      (cellsFrom m p cells cell cs).map (·.map (·.flatMap spell)) := by
  induction cs generalizing p cells cell with
  | nil => cases p <;> simp [cellsFrom, scan]
  | cons c cs ih =>
    rw [List.flatMap_cons]
    cases hc : m.isMark c with
    | false =>
      -- However many symbols spell it, they all go to the cell.
      obtain ⟨hne, hplain⟩ := h.plain c hc
      rw [cellsFrom_plain hplain hne, cellsFrom_add (m.act_plain hc p), ← ih]
      simp
    | true =>
      -- The one symbol that spells it makes both readers act alike.
      obtain ⟨u, hu, hsame⟩ := h.marked c hc
      have hact := hsame.act
      rw [hu, List.singleton_append]
      cases ha : m.act p c with
      | skip next => rw [cellsFrom_skip ((hact p).trans ha), cellsFrom_skip ha, ih]
      | add next =>
        rw [cellsFrom_add ((hact p).trans ha), cellsFrom_add ha, ← ih]
        simp [hu]
      | endCell =>
        rw [cellsFrom_endCell ((hact p).trans ha), cellsFrom_endCell ha, ← ih]
        simp
      | endRecord =>
        rw [cellsFrom_endRecord ((hact p).trans ha), cellsFrom_endRecord ha, List.map_cons, ← ih]
        simp

/-! ## Characters and their bytes -/

/-- The marks of delimited characters. -/
def charMarks (separator : Char) : Marks Char where
  isSeparator := (· == separator)
  isQuote := (· == '"')
  isBreak := fun c => c == '\n' || c == '\r'

/-- The byte of an ASCII character. -/
def asciiByte (c : Char) : UInt8 := UInt8.ofNat c.toNat

theorem asciiByte_beq {c d : Char} (hc : c.toNat < 0x80) (hd : d.toNat < 0x80) :
    (asciiByte c == asciiByte d) = (c == d) := by
  rw [Bool.eq_iff_iff, beq_iff_eq, beq_iff_eq]
  refine ⟨fun h => ?_, fun h => h ▸ rfl⟩
  have hbytes := congrArg UInt8.toNat h
  rw [asciiByte, asciiByte, Text.Utf8.toNat_byte (by omega), Text.Utf8.toNat_byte (by omega)]
    at hbytes
  exact Char.toNat_inj.1 hbytes

theorem sameMeaning_asciiByte {separator c : Char} (hs : separator.toNat < 0x80)
    (hc : c.toNat < 0x80) :
    SameMeaning (charMarks separator) c (byteMarks (asciiByte separator)) (asciiByte c) where
  separator := asciiByte_beq hc hs
  quote := asciiByte_beq (d := '"') hc (by decide)
  isBreak := congrArg₂ or (asciiByte_beq (d := '\n') hc (by decide))
    (asciiByte_beq (d := '\r') hc (by decide))

/-- A byte beyond ASCII has no meaning. -/
theorem isMark_byte_beyond {separator : Char} (hs : separator.toNat < 0x80) {b : UInt8}
    (hb : 0x80 ≤ b.toNat) : (byteMarks (asciiByte separator)).isMark b = false := by
  have hne : ∀ d : UInt8, d.toNat < 0x80 → (b == d) = false := by
    intro d hd
    rw [beq_eq_false_iff_ne]
    rintro rfl
    omega
  have hseparator : (asciiByte separator).toNat < 0x80 := by
    rw [asciiByte, Text.Utf8.toNat_byte (by omega)]
    exact hs
  simp only [Marks.isMark, byteMarks, hne _ hseparator, hne 0x22 (by decide),
    hne 0x0A (by decide), hne 0x0D (by decide), Bool.or_false]

theorem spells_utf8 {separator : Char} (hs : separator.toNat < 0x80) :
    Spells (charMarks separator) (byteMarks (asciiByte separator)) String.utf8EncodeChar where
  marked c hc := by
    have hascii : c.toNat < 0x80 := by
      simp only [Marks.isMark, charMarks, Bool.or_eq_true, beq_iff_eq] at hc
      rcases hc with (rfl | rfl) | rfl | rfl
      · exact hs
      all_goals decide
    exact ⟨_, Text.Utf8.utf8EncodeChar_ascii hascii, sameMeaning_asciiByte hs hascii⟩
  plain c hc := by
    refine ⟨Text.Utf8.utf8EncodeChar_ne_nil c, fun b hb => ?_⟩
    by_cases hascii : c.toNat < 0x80
    · rw [Text.Utf8.utf8EncodeChar_ascii hascii, List.mem_singleton] at hb
      subst hb
      exact (sameMeaning_asciiByte hs hascii).isMark.trans hc
    · exact isMark_byte_beyond hs (Text.Utf8.utf8EncodeChar_beyond (Nat.le_of_not_lt hascii) b hb)

/-! ## The records of a text -/

theorem cellTexts_encode (position : Nat) (cells : List (List Char)) :
    cellTexts position (cells.map Text.Utf8.encode) = .ok (cells.map String.ofList) := by
  induction cells generalizing position with
  | nil => rfl
  | cons c cs ih =>
    rw [List.map_cons, cellTexts, Text.Utf8.decode_encode]
    simp only [ih]
    rfl

theorem recordTexts_encode (bytes : List UInt8) (position : Nat) {rs : List (Record UInt8)}
    {cells : List (List (List Char))} (h : rs.map Record.cells = cells.map (·.map Text.Utf8.encode)) :
    recordTexts bytes position rs = .ok (cells.map (·.map String.ofList)) := by
  induction rs generalizing position cells with
  | nil =>
    obtain rfl : cells = [] := by simpa using h.symm
    rfl
  | cons r rs ih =>
    cases cells with
    | nil => cases h
    | cons c cs =>
      obtain ⟨hr, hrs⟩ := List.cons.inj h
      rw [recordTexts, hr, cellTexts_encode]
      simp only [ih (position + 1) hrs]
      rfl

/-- The cells of the records of a text, character by character. -/
def textCells (separator : Char) (cs : List Char) : List (List (List Char)) :=
  cellsFrom (charMarks separator) .recordStart [] [] cs

/-- Bytes that are a text but for a byte order mark have the records of this text. -/
theorem readRecords_eq {separator : Char} (hs : separator.toNat < 0x80) {text cs : List Char}
    (h : Text.Utf8.stripMark (Text.Utf8.encode text) = Text.Utf8.encode cs) :
    readRecords (asciiByte separator) text =
      .ok ((textCells separator cs).map (·.map String.ofList)) := by
  have hspelled := cellsFrom_spelled (spells_utf8 hs) .recordStart [] [] cs
  refine recordTexts_encode _ 0 ?_
  simp only [byteRecords, records, map_cells_scan, h]
  exact hspelled

end SheetIntake.Delimited
