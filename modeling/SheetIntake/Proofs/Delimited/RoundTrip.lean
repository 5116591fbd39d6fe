import SheetIntake.Proofs.Delimited.Written
import SheetIntake.Proofs.Table.Contents

/-! # Tables in delimited files

    However a table is written, with cells quoted or bare, with any line breaks, with empty
    lines between its records and with or without a byte order mark, the decoder gives it back:
    the headers, and under them the texts of every row, in order (`decode_written`). -/

namespace SheetIntake.Delimited

/-! ## Lines of records with something in them -/

theorem WrittenCell.chars_ne_nil {c : WrittenCell} (h : c.text ≠ "") : c.chars ≠ [] := by
  obtain ⟨text, quoted⟩ := c
  cases quoted with
  | true => simp [chars]
  | false => simpa [chars] using h

theorem WrittenRecord.line_ne_nil {r : WrittenRecord} (separator : Char)
    (h : isBlankRecord r.texts = false) : r.line separator ≠ [] := by
  obtain ⟨cells, breaks⟩ := r
  match cells with
  | [] => simp [texts, isBlankRecord] at h
  | [c] =>
    have hfull : Text.isBlank c.text = false := by simpa [texts, isBlankRecord] using h
    rw [line, List.map_singleton, List.intercalate_singleton]
    refine c.chars_ne_nil ?_
    rintro hempty
    simp [hempty, Text.isBlank] at hfull
  | c :: d :: ds => simp [line, List.intercalate_cons_cons]

theorem WrittenRecord.exists_line_eq (separator : Char) {r : WrittenRecord} {c : WrittenCell}
    {cs : List WrittenCell} (h : r.cells = c :: cs) :
    ∃ rest, r.line separator = c.chars ++ rest := by
  rw [line, h]
  cases cs with
  | nil => exact ⟨[], by simp⟩
  | cons d ds =>
    rw [List.map_cons, List.map_cons, List.intercalate_cons_cons, List.append_assoc]
    exact ⟨_, rfl⟩

/-- A file starts with its first cell. -/
theorem WrittenFile.head?_chars (separator : Char) {f : WrittenFile} {r : WrittenRecord}
    {rs : List WrittenRecord} {c : WrittenCell} {cs : List WrittenCell}
    (hrecords : f.records = r :: rs) (hcells : r.cells = c :: cs) (hne : c.chars ≠ []) :
    (f.chars separator).head? = c.chars.head? := by
  obtain ⟨rest, hrest⟩ := r.exists_line_eq separator hcells
  have hrecord : r.chars separator = r.line separator ++ r.breaks.flatMap LineBreak.chars := rfl
  rw [chars, hrecords, List.flatMap_cons, hrecord, hrest, List.append_assoc, List.append_assoc,
    List.head?_append_of_ne_nil _ hne]

/-- A quotation mark hides what a cell starts with. -/
theorem head?_chars_ne_mark {c : WrittenCell}
    (h : c.text.toList.head? ≠ some Text.Utf8.markChar) :
    c.chars.head? ≠ some Text.Utf8.markChar := by
  obtain ⟨text, quoted⟩ := c
  cases quoted with
  | true =>
    show some '"' ≠ some Text.Utf8.markChar
    decide
  | false => exact h

/-! ## Files of quoted cells -/

section
variable {separator : Char} {records : List (List String)}

theorem fits_quoted (separator : Char) (records : List (List String)) :
    (WrittenFile.quoted records).Fits separator := by
  constructor
  · intro r hr c hc
    obtain ⟨cells, -, rfl⟩ := List.mem_map.1 hr
    obtain ⟨text, -, rfl⟩ := List.mem_map.1 hc
    exact .inl rfl
  · intro r hr
    obtain ⟨cells, -, rfl⟩ := List.mem_map.1 (List.mem_of_mem_dropLast hr)
    simp [WrittenRecord.quoted]

@[simp] theorem texts_quoted (records : List (List String)) :
    (WrittenFile.quoted records).texts = records := by
  simp [WrittenFile.texts, WrittenFile.quoted, WrittenRecord.texts, WrittenRecord.quoted,
    Function.comp_def]

theorem cells_quoted (cell : String) (cells : List String) :
    (WrittenRecord.quoted (cell :: cells)).cells =
      ⟨cell, true⟩ :: (WrittenRecord.quoted cells).cells := rfl

/-- A file of quoted cells starts with a quotation mark. -/
theorem head?_quoted_ne_mark (hcells : ∀ r ∈ records, r ≠ []) :
    ((WrittenFile.quoted records).chars separator).head? ≠ some Text.Utf8.markChar := by
  cases records with
  | nil => simp [WrittenFile.quoted, WrittenFile.chars]
  | cons r rs =>
    obtain ⟨cell, others, rfl⟩ := List.exists_cons_of_ne_nil (hcells r (List.mem_cons_self ..))
    rw [WrittenFile.head?_chars separator rfl (cells_quoted cell others)
      (by simp [WrittenCell.chars])]
    show some '"' ≠ some Text.Utf8.markChar
    decide

/-- A file of quoted cells has its records, unless one of them has no cell at all. -/
theorem recordsOf_quoted (hs : IsSeparator separator) (hcells : ∀ r ∈ records, r ≠ []) :
    recordsOf ((WrittenFile.quoted records).bytes separator) (some (asciiByte separator)) =
      .ok records := by
  have hlines : ∀ r ∈ (WrittenFile.quoted records).records, r.line separator ≠ [] := by
    intro r hr
    obtain ⟨cells, hmem, rfl⟩ := List.mem_map.1 hr
    obtain ⟨cell, others, rfl⟩ := List.exists_cons_of_ne_nil (hcells cells hmem)
    obtain ⟨rest, hrest⟩ := WrittenRecord.exists_line_eq separator (cells_quoted cell others)
    rw [hrest]
    simp [WrittenCell.chars]
  have hread := readRecords_written hs (fits_quoted separator records) hlines
    (head?_quoted_ne_mark hcells)
  rwa [texts_quoted] at hread

end

/-! ## Reading a table back -/

/-- The decoder undoes every way of writing a table. -/
theorem decode_written {separator : Char} (hs : separator ∈ candidates) {f : WrittenFile}
    (fits : f.Fits separator) {headers : List String} {rows : List (List String)}
    (texts : f.texts = headers :: rows) (hne : headers ≠ []) (distinct : headers.Nodup)
    (clean : ∀ header ∈ headers, Text.trim header = header ∧ Text.isBlank header = false)
    (unmarked : ∀ header ∈ headers.head?, header.toList.head? ≠ some Text.Utf8.markChar)
    (hrows : rows ≠ [])
    (shaped : ∀ r ∈ rows, r.length = headers.length ∧ ∃ cell ∈ r, Text.isBlank cell = false) :
    decode (f.bytes separator) (some (asciiByte separator)) =
      .ok { headers, rows := rows.map fun cells => ⟨headers.zip cells⟩ } := by
  have hclean : ∀ header ∈ headers, Text.Clean header := fun header hmem =>
    ⟨(clean header hmem).1, (clean header hmem).2⟩
  have hfull : ∀ r ∈ rows, isBlankRecord r = false := fun r hr =>
    isBlankRecord_of_full (shaped r hr).2
  have htable := Table.ofRecords?_eq hne hclean distinct hrows (fun r hr => (shaped r hr).1) hfull
  -- No line of the file is empty, so every record is read.
  have hlines : ∀ r ∈ f.records, r.line separator ≠ [] := by
    intro r hr
    refine r.line_ne_nil separator ?_
    have hmem : r.texts ∈ headers :: rows := texts ▸ List.mem_map_of_mem hr
    rcases List.mem_cons.1 hmem with hheader | hrow
    · obtain ⟨header, hheaders⟩ := List.exists_mem_of_ne_nil headers hne
      rw [hheader]
      exact isBlankRecord_of_full ⟨header, hheaders, (hclean header hheaders).full⟩
    · exact hfull _ hrow
  -- The first character of the file is a quotation mark or that of the first header.
  have hmark : (f.chars separator).head? ≠ some Text.Utf8.markChar := by
    obtain ⟨first, others, rfl⟩ := List.exists_cons_of_ne_nil hne
    obtain ⟨r, rs, hrecords, hr, -⟩ := List.map_eq_cons_iff.1 texts
    obtain ⟨c, cs, hcells, hc, -⟩ := List.map_eq_cons_iff.1 hr
    have hfirst : c.text ≠ "" := hc ▸ (hclean first (List.mem_cons_self ..)).ne_empty
    rw [WrittenFile.head?_chars separator hrecords hcells (c.chars_ne_nil hfirst)]
    exact head?_chars_ne_mark (hc ▸ unmarked first rfl)
  have hread := readRecords_written (IsSeparator.of_candidate hs) fits hlines hmark
  rw [texts] at hread
  exact decode_eq_ok.2 ⟨_, hread, htable⟩

/-- A byte order mark, quoted and bare cells, quotation marks, separators and line breaks inside
cells, all three line breaks, empty lines and an end without a line break. -/
def variedFile : WrittenFile where
  hasMark := true
  records := [
    { cells := [⟨"né", false⟩, ⟨"a;\n\"b\"", true⟩, ⟨"\uFEFFc", true⟩], breaks := [.cr, .crlf, .lf] },
    { cells := [⟨"", false⟩, ⟨"\"\r\n\"", true⟩, ⟨" 1,5 ", false⟩], breaks := [.crlf] },
    { cells := [⟨"\u0000😀", false⟩, ⟨"", true⟩, ⟨"", false⟩], breaks := [] }]

theorem varied_file_read_back :
    variedFile.Fits ';' ∧
      decode (variedFile.bytes ';') (some 0x3B) =
        .ok ⟨["né", "a;\n\"b\"", "\uFEFFc"],
          [⟨[("né", ""), ("a;\n\"b\"", "\"\r\n\""), ("\uFEFFc", " 1,5 ")]⟩,
            ⟨[("né", "\u0000😀"), ("a;\n\"b\"", ""), ("\uFEFFc", "")]⟩]⟩ :=
  have hfits : variedFile.Fits ';' := by
    refine ⟨?_, by decide⟩
    simp [variedFile, WrittenCell.Fits]
  ⟨hfits, decode_written (by decide) hfits rfl (by decide) (by decide) (by decide) (by decide)
    (by decide) (by decide)⟩

end SheetIntake.Delimited
