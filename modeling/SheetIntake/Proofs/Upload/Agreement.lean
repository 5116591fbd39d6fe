import SheetIntake.Proofs.Delimited.RoundTrip
import SheetIntake.Proofs.Upload.Reading

/-! # The two decoders agree

    The rectangle around the cells of a sheet of texts is the whole sheet
    (`records_texts`), and the records of a file of quoted cells are its cells.  So a table of
    texts becomes the same table on either way, or has no data on either.  There is one exception:
    a workbook that is taken for protected is not read at all. -/

namespace SheetIntake

/-! ## Sheets of texts -/

namespace Sheet

theorem isAbsent_text (s : String) : isAbsent (.text s) = false := rfl

section
variable {rows : List (List Cell)}

/-- Rows that all have a cell are kept. -/
theorem occupiedRows_eq_self (h : ∀ row ∈ rows, row.all isAbsent = false) :
    occupiedRows rows = rows := by
  have hkeep : ∀ l : List (List Cell), (∀ row ∈ l, row.all isAbsent = false) →
      l.dropWhile (fun row => row.all isAbsent) = l := by
    intro l hl
    cases l with
    | nil => rfl
    | cons row rows =>
      rw [List.dropWhile_cons_of_neg (by simp [hl row (List.mem_cons_self ..)])]
  have hback : ∀ row ∈ rows.reverse, row.all isAbsent = false :=
    fun row hrow => h row (List.mem_reverse.1 hrow)
  rw [occupiedRows, hkeep rows h, hkeep rows.reverse hback, List.reverse_reverse]

theorem leading?_of_full {row : List Cell} (hne : row ≠ [])
    (full : ∀ c ∈ row, isAbsent c = false) : leading? row = some 0 := by
  obtain ⟨c, cs, rfl⟩ := List.exists_cons_of_ne_nil hne
  simp [leading?, List.findIdx?_cons, full c (List.mem_cons_self ..)]

theorem reach_of_full {row : List Cell} (full : ∀ c ∈ row, isAbsent c = false) :
    reach row = row.length := by
  have hkept : row.reverse.dropWhile isAbsent = row.reverse := by
    rw [List.dropWhile_eq_self_iff]
    intro hpos
    exact Bool.eq_false_iff.1 (full _ (List.mem_reverse.1 (List.getElem_mem hpos)))
  rw [reach, hkept, List.length_reverse]

/-- Rows of one width without an absent cell are their own rectangle. -/
theorem rectangle_of_full {width : Nat} (hwidth : 0 < width)
    (hrows : ∀ row ∈ rows, row.length = width ∧ ∀ c ∈ row, isAbsent c = false) :
    rectangle rows = rows := by
  have hoccupied : ∀ row ∈ rows, row.all isAbsent = false := by
    intro row hrow
    obtain ⟨hlength, hfull⟩ := hrows row hrow
    obtain ⟨c, hc⟩ := List.exists_mem_of_length_pos (hlength ▸ hwidth)
    exact List.all_eq_false.2 ⟨c, hc, by simp [hfull c hc]⟩
  have hleft : ∀ n ∈ rows.filterMap leading?, n = 0 := by
    intro n hn
    obtain ⟨row, hrow, hfound⟩ := List.mem_filterMap.1 hn
    obtain ⟨hlength, hfull⟩ := hrows row hrow
    rw [leading?_of_full (List.length_pos_iff.1 (hlength ▸ hwidth)) hfull] at hfound
    exact (Option.some.inj hfound).symm
  have hright : ∀ n ∈ rows.map reach, n = width := by
    intro n hn
    obtain ⟨row, hrow, rfl⟩ := List.mem_map.1 hn
    obtain ⟨hlength, hfull⟩ := hrows row hrow
    rw [reach_of_full hfull, hlength]
  have hmin : ((rows.filterMap leading?).min?).getD 0 = 0 := by
    cases hfound : (rows.filterMap leading?).min? with
    | none => rfl
    | some n => exact hleft n (List.min?_mem hfound)
  simp only [rectangle, occupiedRows_eq_self hoccupied, hmin, List.drop_zero]
  cases hfound : (rows.map reach).max? with
  | none =>
    have hnil : rows = [] := by simpa using List.max?_eq_none_iff.1 hfound
    simp [hnil]
  | some n =>
    obtain rfl : n = width := hright n (List.max?_mem hfound)
    rw [Option.getD_some]
    refine List.map_congr_left (fun row hrow => ?_) |>.trans (List.map_id rows)
    obtain ⟨hlength, -⟩ := hrows row hrow
    simp [hlength]

end

/-- The rectangle of a sheet of texts is the whole sheet. -/
theorem records_texts {records : List (List String)} {width : Nat} (hwidth : 0 < width)
    (rectangular : ∀ r ∈ records, r.length = width) :
    Sheet.records (records.map fun r => r.map Cell.text) = records := by
  have hfull : ∀ row ∈ records.map (fun r => r.map Cell.text),
      row.length = width ∧ ∀ c ∈ row, isAbsent c = false := by
    intro row hrow
    obtain ⟨r, hr, rfl⟩ := List.mem_map.1 hrow
    refine ⟨by simp [rectangular r hr], fun c hc => ?_⟩
    obtain ⟨s, -, rfl⟩ := List.mem_map.1 hc
    exact isAbsent_text s
  rw [Sheet.records, rectangle_of_full hwidth hfull]
  simp [Function.comp_def, Cell.toText]

theorem mapM_of_ok {α β : Type} {f : α → Except String β} {g : α → β} {l : List α}
    (h : ∀ a ∈ l, f a = .ok (g a)) : l.mapM f = .ok (l.map g) := by
  induction l with
  | nil => rfl
  | cons a as ih =>
    obtain ⟨ha, has⟩ := List.forall_mem_cons.1 h
    rw [List.mapM_cons, ha, ih has]
    rfl

/-- A sheet of texts has these texts as its cells, except that the oldest format stores no
empty text. -/
theorem cells_ofTexts (name : String) {records : List (List String)} {format : WorkbookFormat}
    (h : format = .xls → ∀ r ∈ records, ∀ s ∈ r, s ≠ "") (from1904 : Bool) :
    (Sheet.ofTexts name records).cells format from1904 =
      .ok (records.map fun r => r.map Cell.text) := by
  have hcell : ∀ r ∈ records, ∀ s ∈ r, StoredCell.read format from1904 (.text s) = .ok (.text s) := by
    intro r hr s hs
    rw [StoredCell.read, if_neg]
    rintro ⟨hxls, hempty⟩
    exact h hxls r hr s hs (String.isEmpty_iff.1 hempty)
  show (records.map fun r => r.map StoredCell.text).mapM _ = _
  rw [List.mapM_map]
  refine mapM_of_ok fun r hr => ?_
  show (r.map StoredCell.text).mapM _ = _
  rw [List.mapM_map]
  exact mapM_of_ok (hcell r hr)

end Sheet

/-! ## Workbooks of one sheet -/

namespace Workbook

/-- A sheet of texts is read as the table of these texts. -/
theorem readSheet_texts {w : Workbook} {s : Sheet} {records : List (List String)} {width : Nat}
    (hwidth : 0 < width) (rectangular : ∀ r ∈ records, r.length = width)
    (hcells : s.cells w.format w.from1904 = .ok (records.map fun r => r.map Cell.text)) :
    w.readSheet s =
      match Table.ofRecords? records with
      | some table => .ok table
      | none => .error (.emptySheet s.name) := by
  have hbounded : ((records.map fun r => r.map Cell.text).any fun row => row.any Cell.overflows) =
      false := by
    simp [List.any_eq_false, Cell.overflows]
  simp only [readSheet, hcells, hbounded, Sheet.records_texts hwidth rectangular]
  rfl

end Workbook

namespace Content

theorem decodeWorkbook_protected {w : Workbook} (h : w.looksProtected = true) :
    (workbook w).decodeWorkbook = .error .passwordProtected := by
  have hopen : (workbook w).openWorkbook = .error .passwordProtected := if_pos h
  rw [decodeWorkbook, hopen]
  rfl

/-- The only sheet of a workbook is read at once. -/
theorem decodeWorkbook_single {w : Workbook} {s : Sheet} (hsheets : w.sheets = [s])
    (h : w.looksProtected = false) :
    (workbook w).decodeWorkbook = (w.readSheet s).map (.table (some s.name)) := by
  have hnames : w.names = [s.name] := by rw [Workbook.names, hsheets]; rfl
  have hnamed : w.readNamed s.name = w.readSheet s := by simp [Workbook.readNamed, hsheets]
  simp only [decodeWorkbook, openWorkbook_workbook h, bind, Except.bind, hnames, hnamed]
  cases w.readSheet s <;> rfl

end Content

/-! ## Agreement -/

/-- Both ways of reading give the same table, or neither finds any data. -/
def SameOutcome (sheetName : String) (fromWorkbook : Except ImportError Decoded)
    (fromText : Except ImportError Table) : Prop :=
  (∃ t, fromWorkbook = .ok (.table (some sheetName) t) ∧ fromText = .ok t) ∨
    (fromWorkbook = .error (.emptySheet sheetName) ∧ fromText = .error .noRows)

/-- Reading a table of texts from a workbook with one sheet and reading it from delimited text
agree exactly if the workbook is not taken for protected. -/
theorem agree_iff_not_protected {separator : Char} (hs : separator ∈ Delimited.candidates)
    {records : List (List String)} {width : Nat} (hwidth : 0 < width)
    (rectangular : ∀ r ∈ records, r.length = width) {w : Workbook} {s : Sheet}
    (hsheets : w.sheets = [s])
    (hcells : s.cells w.format w.from1904 = .ok (records.map fun r => r.map Cell.text)) :
    SameOutcome s.name (Content.workbook w).decodeWorkbook
        (Delimited.decode ((Delimited.WrittenFile.quoted records).bytes separator)
          (some (Delimited.asciiByte separator))) ↔
      w.looksProtected = false := by
  have hnonempty : ∀ r ∈ records, r ≠ [] := by
    intro r hr
    rw [← List.length_pos_iff, rectangular r hr]
    exact hwidth
  have hrecords := Delimited.recordsOf_quoted (Delimited.IsSeparator.of_candidate hs) hnonempty
  constructor
  · intro h
    by_contra hprotected
    rw [Content.decodeWorkbook_protected (by simpa using hprotected)] at h
    rcases h with ⟨t, hw, -⟩ | ⟨hw, -⟩ <;> simp at hw
  · intro h
    rw [Content.decodeWorkbook_single hsheets h, Workbook.readSheet_texts hwidth rectangular hcells,
      Delimited.decode_eq, hrecords]
    cases htable : Table.ofRecords? records with
    | some t => exact .inl ⟨t, rfl, by simp only [htable]⟩
    | none => exact .inr ⟨rfl, by simp only [htable]⟩

/-- A blank record, blank and repeated headers, blank cells, a separator, quotation marks and line
breaks. -/
def variedTexts : List (List String) :=
  [["", " "], ["a", "a"], ["", "x;\r\n\"y\""], [" ", ""]]

theorem agree_on_varied_texts :
    SameOutcome "S"
      (Content.workbook ⟨.xlsx, false, [Sheet.ofTexts "S" variedTexts]⟩).decodeWorkbook
      (Delimited.decode ((Delimited.WrittenFile.quoted variedTexts).bytes ';') (some 0x3B)) :=
  have hrectangular : ∀ r ∈ variedTexts, r.length = 2 := by decide
  have hcells : (Sheet.ofTexts "S" variedTexts).cells .xlsx false =
      .ok (variedTexts.map fun r => r.map Cell.text) := Sheet.cells_ofTexts "S" (by simp) false
  have hseparator : ';' ∈ Delimited.candidates := by decide
  (agree_iff_not_protected hseparator (by decide) hrectangular
    (w := ⟨.xlsx, false, [Sheet.ofTexts "S" variedTexts]⟩) rfl hcells).2 rfl

/-- The name of the protected part as the text of a header. -/
def protectedTexts : List (List String) := [["EncryptedPackage"], ["x"]]

/-- A workbook of the oldest format with the name of the protected part in a cell is refused,
though the same text is read from a delimited file. -/
theorem no_agreement_on_protected_part :
    let w : Workbook := ⟨.xls, false, [Sheet.ofTexts "S" protectedTexts]⟩
    let fromText :=
      Delimited.decode ((Delimited.WrittenFile.quoted protectedTexts).bytes ',') (some 0x2C)
    (Sheet.ofTexts "S" protectedTexts).cells .xls false =
        .ok (protectedTexts.map fun r => r.map Cell.text) ∧
      (Content.workbook w).decodeWorkbook = .error .passwordProtected ∧
      fromText = .ok ⟨["EncryptedPackage"], [⟨[("EncryptedPackage", "x")]⟩]⟩ ∧
      ¬ SameOutcome "S" (Content.workbook w).decodeWorkbook fromText := by
  have hprotected : (Content.workbook ⟨.xls, false,
      [Sheet.ofTexts "S" protectedTexts]⟩).decodeWorkbook = .error .passwordProtected :=
    Content.decodeWorkbook_protected (by decide)
  refine ⟨Sheet.cells_ofTexts "S" (by decide) false, hprotected, by rfl, ?_⟩
  rw [hprotected]
  rintro (⟨t, hw, -⟩ | ⟨hw, -⟩)
  · cases hw
  · cases hw

end SheetIntake
