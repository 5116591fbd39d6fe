import SheetIntake.Delimited.Writer
import SheetIntake.Proofs.Delimited.Characters

/-! # Every way of writing a file is read back

    A cell that is written takes the reader from the start of a cell to a place where a
    separator ends the cell and a line break or the end of the text ends the record
    (`read_cell`).  A whole line is read cell by cell (`read_line`), further line breaks are
    skipped, and so the records of a written file are its cells (`textCells_written`), unless a
    line is empty. -/

namespace SheetIntake.Delimited

/-! ## The separator -/

/-- A separator that cannot be taken for a quotation mark or a line break. -/
structure IsSeparator (separator : Char) : Prop where
  ascii : separator.toNat < 0x80
  ne_quote : separator ≠ '"'
  ne_lf : separator ≠ '\n'
  ne_cr : separator ≠ '\r'

theorem IsSeparator.of_candidate {separator : Char} (h : separator ∈ candidates) :
    IsSeparator separator := by
  simp only [candidates, List.mem_cons, List.not_mem_nil, or_false] at h
  rcases h with rfl | rfl | rfl | rfl <;> constructor <;> decide

/-! ## Where a cell or a record can end -/

/-- A separator ends the cell here. -/
def Phase.mayEnd : Phase → Bool
  | .cellStart | .bare | .quoteSeen => true
  | .recordStart | .quoted => false

/-- Nothing follows, or a line break. -/
def StartsWithBreak (rest : List Char) : Prop := ∀ c ∈ rest.head?, c = '\n' ∨ c = '\r'

theorem startsWithBreak_nil : StartsWithBreak [] := by simp [StartsWithBreak]

section
variable {separator : Char} {p : Phase} {cells : List (List Char)} {cell rest : List Char}

theorem isBreak_iff {c : Char} :
    (charMarks separator).isBreak c = true ↔ c = '\n' ∨ c = '\r' := by
  simp [charMarks]

/-- Line breaks before a record are skipped. -/
theorem read_break {c : Char} (h : c = '\n' ∨ c = '\r') :
    cellsFrom (charMarks separator) .recordStart cells cell (c :: rest) =
      cellsFrom (charMarks separator) .recordStart cells cell rest := by
  refine cellsFrom_skip ?_
  rw [Marks.act, if_pos (isBreak_iff.2 h)]

theorem read_breaks (breaks : List LineBreak) (cells : List (List Char)) (cell : List Char) :
    cellsFrom (charMarks separator) .recordStart cells cell
        (breaks.flatMap LineBreak.chars ++ rest) =
      cellsFrom (charMarks separator) .recordStart cells cell rest := by
  induction breaks with
  | nil => rfl
  | cons b bs ih =>
    rw [List.flatMap_cons, List.append_assoc]
    cases b with
    | lf => rw [LineBreak.chars, List.singleton_append, read_break (.inl rfl), ih]
    | cr => rw [LineBreak.chars, List.singleton_append, read_break (.inr rfl), ih]
    | crlf =>
      rw [LineBreak.chars, List.cons_append, List.singleton_append, read_break (.inr rfl),
        read_break (.inl rfl), ih]

/-- A record starts like any of its cells unless a line break comes first. -/
theorem read_recordStart {c : Char} (h : ¬ (c = '\n' ∨ c = '\r')) :
    cellsFrom (charMarks separator) .recordStart cells cell (c :: rest) =
      cellsFrom (charMarks separator) .cellStart cells cell (c :: rest) := by
  have hact : (charMarks separator).act .recordStart c = (charMarks separator).act .cellStart c := by
    rw [Marks.act, if_neg (mt isBreak_iff.1 h), Marks.act]
  cases ha : (charMarks separator).act .cellStart c with
  | skip next => rw [cellsFrom_skip ha, cellsFrom_skip (hact.trans ha)]
  | add next => rw [cellsFrom_add ha, cellsFrom_add (hact.trans ha)]
  | endCell => rw [cellsFrom_endCell ha, cellsFrom_endCell (hact.trans ha)]
  | endRecord => rw [cellsFrom_endRecord ha, cellsFrom_endRecord (hact.trans ha)]

theorem read_separator (hs : IsSeparator separator) (hp : p.mayEnd = true) :
    cellsFrom (charMarks separator) p cells cell (separator :: rest) =
      cellsFrom (charMarks separator) .cellStart (cell.reverse :: cells) [] rest := by
  refine cellsFrom_endCell ?_
  cases p with
  | cellStart | bare | quoteSeen => simp [Marks.act, Marks.atCellStart, charMarks, hs.ne_quote]
  | recordStart | quoted => cases hp

/-- A line break or the end of the text ends the record. -/
theorem read_end (hs : IsSeparator separator) (hp : p.mayEnd = true) (h : StartsWithBreak rest) :
    cellsFrom (charMarks separator) p cells cell rest =
      (cell.reverse :: cells).reverse ::
        cellsFrom (charMarks separator) .recordStart [] [] rest := by
  cases rest with
  | nil =>
    rw [cellsFrom_nil (by rintro rfl; cases hp), cellsFrom_recordStart_nil]
  | cons c cs =>
    have hc : c = '\n' ∨ c = '\r' := h c rfl
    rw [read_break hc]
    refine cellsFrom_endRecord ?_
    have hbreak : (charMarks separator).isBreak c = true := isBreak_iff.2 hc
    have hquote : (charMarks separator).isQuote c = false := by
      rcases hc with rfl | rfl <;> simp [charMarks]
    have hseparator : (charMarks separator).isSeparator c = false := by
      rcases hc with rfl | rfl <;> simp [charMarks, hs.ne_lf.symm, hs.ne_cr.symm]
    cases p with
    | cellStart | bare | quoteSeen =>
      simp [Marks.act, Marks.atCellStart, hbreak, hquote, hseparator]
    | recordStart | quoted => cases hp

end

/-! ## Cells -/

section
variable {separator : Char}

/-- In a quoted cell every symbol stands for itself, and two quotation marks for one. -/
theorem read_doubled (cells : List (List Char)) (cell cs rest : List Char) :
    cellsFrom (charMarks separator) .quoted cells cell (doubled cs ++ '"' :: rest) =
      cellsFrom (charMarks separator) .quoteSeen cells (cs.reverse ++ cell) rest := by
  have hquote : (charMarks separator).isQuote '"' = true := by simp [charMarks]
  have hseen : (charMarks separator).act .quoted '"' = .skip .quoteSeen := by
    rw [Marks.act, if_pos hquote]
  -- The closing mark is only told from an inner one by what follows, so the induction ends in the
  -- phase in which a mark has been seen.
  induction cs generalizing cell with
  | nil => exact cellsFrom_skip hseen
  | cons c cs ih =>
    by_cases hc : c = '"'
    · subst hc
      have hadd : (charMarks separator).act .quoteSeen '"' = .add .quoted := by
        rw [Marks.act, if_pos hquote]
      rw [doubled, List.cons_append, List.cons_append, cellsFrom_skip hseen, cellsFrom_add hadd, ih]
      simp
    · have hplain : (charMarks separator).isQuote c = false := by simp [charMarks, hc]
      have hadd : (charMarks separator).act .quoted c = .add .quoted := by
        rw [Marks.act, hplain]
        rfl
      rw [doubled.eq_3 _ _ (fun h => hc h), List.cons_append, cellsFrom_add hadd, ih]
      simp

/-- A written cell is read from its start to a place where it may end. -/
theorem read_cell {c : WrittenCell} (h : c.Fits separator) :
    ∃ p : Phase, p.mayEnd = true ∧ ∀ cells rest,
      cellsFrom (charMarks separator) .cellStart cells [] (c.chars ++ rest) =
        cellsFrom (charMarks separator) p cells c.text.toList.reverse rest := by
  obtain ⟨text, quoted⟩ := c
  cases quoted with
  | true =>
    refine ⟨.quoteSeen, rfl, fun cells rest => ?_⟩
    have hopen : (charMarks separator).act .cellStart '"' = .skip .quoted := by
      simp [Marks.act, Marks.atCellStart, charMarks]
    show cellsFrom _ _ cells [] ('"' :: doubled text.toList ++ ['"'] ++ rest) = _
    rw [List.append_assoc, List.singleton_append, List.cons_append, cellsFrom_skip hopen,
      read_doubled, List.append_nil]
  | false =>
    have hbare : ∀ x ∈ text.toList, (charMarks separator).isMark x = false := by
      intro x hx
      obtain ⟨h1, h2, h3, h4⟩ := h.resolve_left (by simp) x hx
      simp [Marks.isMark, charMarks, h1, h2, h3, h4]
    by_cases hempty : text.toList = []
    · refine ⟨.cellStart, rfl, fun cells rest => ?_⟩
      simp [WrittenCell.chars, hempty]
    · refine ⟨.bare, rfl, fun cells rest => ?_⟩
      show cellsFrom _ _ cells [] (text.toList ++ rest) = _
      rw [cellsFrom_plain hbare hempty, List.append_nil]
      rfl

/-! ## Records -/

/-- The characters of the cells of a record. -/
def WrittenRecord.line (separator : Char) (r : WrittenRecord) : List Char :=
  [separator].intercalate (r.cells.map WrittenCell.chars)

/-- The cells of a line up to its end are those of a record. -/
theorem read_line (hs : IsSeparator separator) {c : WrittenCell} {cs : List WrittenCell}
    (fits : ∀ c' ∈ c :: cs, c'.Fits separator) (cells : List (List Char)) {rest : List Char}
    (hrest : StartsWithBreak rest) :
    cellsFrom (charMarks separator) .cellStart cells []
        ([separator].intercalate ((c :: cs).map WrittenCell.chars) ++ rest) =
      (cells.reverse ++ (c :: cs).map (·.text.toList)) ::
        cellsFrom (charMarks separator) .recordStart [] [] rest := by
  induction cs generalizing c cells with
  | nil =>
    obtain ⟨p, hp, hread⟩ := read_cell (fits c (List.mem_cons_self ..))
    rw [List.map_singleton, List.intercalate_singleton, hread, read_end hs hp hrest]
    simp
  | cons d ds ih =>
    obtain ⟨hc, hds⟩ := List.forall_mem_cons.1 fits
    obtain ⟨p, hp, hread⟩ := read_cell hc
    rw [List.map_cons, List.map_cons, List.intercalate_cons_cons, List.append_assoc,
      List.append_assoc, hread, List.singleton_append, read_separator hs hp, ← List.map_cons,
      ih hds]
    simp

/-- The line does not start with a line break, since a cell that has one is quoted. -/
theorem head_line_not_break (hs : IsSeparator separator) {r : WrittenRecord}
    (fits : ∀ c ∈ r.cells, c.Fits separator) :
    ∀ x ∈ (r.line separator).head?, ¬ (x = '\n' ∨ x = '\r') := by
  have hcell : ∀ c : WrittenCell, c.Fits separator → ∀ x ∈ c.chars.head?,
      ¬ (x = '\n' ∨ x = '\r') := by
    rintro ⟨text, quoted⟩ hc x hx
    cases quoted with
    | true =>
      obtain rfl : '"' = x := by simpa [WrittenCell.chars] using hx
      decide
    | false =>
      have hmem : x ∈ text.toList := List.mem_of_mem_head? hx
      obtain ⟨-, -, hlf, hcr⟩ := hc.resolve_left (by simp) x hmem
      rintro (rfl | rfl)
      · exact hlf rfl
      · exact hcr rfl
  obtain ⟨cells, breaks⟩ := r
  intro x hx
  match cells with
  | [] => simp [WrittenRecord.line] at hx
  | [c] =>
    simp only [WrittenRecord.line, List.map_singleton, List.intercalate_singleton] at hx
    exact hcell c (fits c (List.mem_cons_self ..)) x hx
  | c :: d :: ds =>
    simp only [WrittenRecord.line, List.map_cons, List.intercalate_cons_cons, List.append_assoc,
      List.singleton_append, List.head?_append, List.head?_cons, Option.mem_def] at hx
    cases hhead : c.chars.head? with
    | some y =>
      obtain rfl : y = x := by simpa [hhead] using hx
      exact hcell c (fits c (List.mem_cons_self ..)) _ hhead
    | none =>
      obtain rfl : separator = x := by simpa [hhead] using hx
      exact not_or.2 ⟨hs.ne_lf, hs.ne_cr⟩

/-- A record that is written on a line which is not empty is read as its cells. -/
theorem read_record (hs : IsSeparator separator) {r : WrittenRecord}
    (fits : ∀ c ∈ r.cells, c.Fits separator) (hline : r.line separator ≠ []) {rest : List Char}
    (hrest : StartsWithBreak rest) :
    textCells separator (r.line separator ++ rest) =
      r.cells.map (·.text.toList) :: textCells separator rest := by
  obtain ⟨x, xs, hx⟩ := List.exists_cons_of_ne_nil hline
  have hfirst := head_line_not_break hs fits x (by rw [hx]; rfl)
  cases hcells : r.cells with
  | nil => simp [WrittenRecord.line, hcells] at hline
  | cons c cs =>
    have hread := read_line hs (hcells ▸ fits) [] hrest
    rw [← hcells] at hread ⊢
    rw [textCells, hx, List.cons_append, read_recordStart hfirst, ← List.cons_append, ← hx]
    exact hread

/-! ## Files -/

/-- What follows a line that has a line break, or nothing, behind it. -/
theorem startsWithBreak_breaks {breaks : List LineBreak} {rest : List Char}
    (h : breaks ≠ [] ∨ rest = []) :
    StartsWithBreak (breaks.flatMap LineBreak.chars ++ rest) := by
  cases breaks with
  | nil =>
    rw [h.resolve_left (by simp)]
    exact startsWithBreak_nil
  | cons b bs => cases b <;> simp [StartsWithBreak, LineBreak.chars]

/-- The records of a written file are its cells. -/
theorem textCells_written (hs : IsSeparator separator) {f : WrittenFile} (fits : f.Fits separator)
    (hlines : ∀ r ∈ f.records, r.line separator ≠ []) :
    textCells separator (f.chars separator) =
      f.records.map fun r => r.cells.map (·.text.toList) := by
  obtain ⟨hasMark, records⟩ := f
  obtain ⟨hcells, hbreaks⟩ := fits
  show textCells separator (records.flatMap (WrittenRecord.chars separator)) = _
  induction records with
  | nil => rfl
  | cons r rs ih =>
    obtain ⟨hr, hrs⟩ := List.forall_mem_cons.1 hcells
    obtain ⟨hline, hlines⟩ := List.forall_mem_cons.1 hlines
    -- Only the last record may do without a line break.
    have hbehind : r.breaks ≠ [] ∨ rs.flatMap (WrittenRecord.chars separator) = [] := by
      cases rs with
      | nil => exact .inr rfl
      | cons r' rs => exact .inl (hbreaks r (by simp))
    have hlater : ∀ r' ∈ rs.dropLast, r'.breaks ≠ [] := by
      intro r' hr'
      cases rs with
      | nil => cases hr'
      | cons _ _ => exact hbreaks r' (List.mem_cons_of_mem _ hr')
    rw [List.flatMap_cons, WrittenRecord.chars, List.append_assoc]
    show textCells separator (r.line separator ++ _) = _
    rw [read_record hs hr hline (startsWithBreak_breaks hbehind), textCells, read_breaks]
    simp only [List.map_cons, List.cons.injEq, true_and]
    exact ih hlines hrs hlater

/-- The text of a written file is what has been written. -/
theorem decodeText_written {f : WrittenFile}
    (unmarked : (f.chars separator).head? ≠ some Text.Utf8.markChar) :
    decodeText (f.bytes separator) = f.chars separator := by
  have hbody : Text.Utf8.stripMark (f.bytes separator) = Text.Utf8.encode (f.chars separator) := by
    rw [WrittenFile.bytes]
    split
    · exact Text.Utf8.stripMark_mark _
    · exact Text.Utf8.stripMark_encode unmarked
  simp only [decodeText, hbody, Text.Utf8.decode_encode]

/-- A written file without a second byte order mark is read as its cells. -/
theorem readRecords_written (hs : IsSeparator separator) {f : WrittenFile}
    (fits : f.Fits separator) (hlines : ∀ r ∈ f.records, r.line separator ≠ [])
    (unmarked : (f.chars separator).head? ≠ some Text.Utf8.markChar) :
    readRecords (asciiByte separator) (decodeText (f.bytes separator)) = .ok f.texts := by
  rw [decodeText_written unmarked, readRecords_eq hs.ascii (Text.Utf8.stripMark_encode unmarked),
    textCells_written hs fits hlines]
  simp [WrittenFile.texts, WrittenRecord.texts, Function.comp_def]

end

end SheetIntake.Delimited
