import SheetIntake.Proofs.Number.PlainNumerals
import SheetIntake.Proofs.Payload.OwnColumn

/-! # Whole numbers from cells to payloads

    A whole number is stored in a cell as an integer or as a double, and as a double in more than
    one way if it is zero.  Below the bound for whole numbers none of this shows in the text of the
    cell, which is the plain numeral (`Cell.Holds.toText_eq`).  A plain numeral is not blank, so the
    row of the cell becomes a row of the table, and the cell stands under its column
    (`Workbook.exists_row`).  From there the numeral goes to the field of the column, as the number
    itself if the field is one for integers (`Payload.gets_of_plainNumeral`). -/

namespace SheetIntake

/-! ## Cells that hold whole numbers -/

/-- The cell is numeric and holds an integer. -/
inductive Cell.Holds : Cell → ℤ → Prop where
  | int (n : ℤ) : Holds (.int n) n
  | real {x : Binary64} {n : ℤ} (h : x.value? = some (n : ℚ)) : Holds (.real x) n

/-- What is stored for a numeric cell is an integer, written in some way or other. -/
inductive StoredCell.Holds : StoredCell → ℤ → Prop where
  | whole (n : ℤ) : Holds (.whole n) n
  | number {t : String} {n : ℤ} (h : Writes t n) : Holds (.number t) n
  | formula {t : String} {n : ℤ} (h : Writes t n) : Holds (.formula t) n

/-- A numeral of at most 53 bits is read as its integer, however it is written. -/
theorem exists_parse?_of_writes {t : String} {n : ℤ} (hn : n.natAbs ≤ 2 ^ 53) (h : Writes t n) :
    ∃ x, Binary64.parse? t = some x ∧ x.value? = some (n : ℚ) := by
  obtain ⟨a, hparse, hvalue⟩ := writes_iff.1 h
  refine ⟨a.toBinary64, ?_, ?_⟩
  · rw [Binary64.parse?, hparse]
    rfl
  · rw [Numeral.value?_toBinary64_eq_some_iff, hvalue]
    exact (Binary64.isDouble_intCast hn).nearest

theorem StoredCell.Holds.exists_read {stored : StoredCell} {n : ℤ} (h : stored.Holds n)
    (hn : n.natAbs ≤ 2 ^ 53) (format : WorkbookFormat) (from1904 : Bool) :
    ∃ cell, stored.read format from1904 = .ok cell ∧ cell.Holds n := by
  cases h with
  | whole => exact ⟨.int n, rfl, .int n⟩
  | @number t _ h =>
    obtain ⟨x, hparse, hvalue⟩ := exists_parse?_of_writes hn h
    -- An empty text is no numeral, so the cell is not taken for an absent one.
    have hempty : ¬(format = .xlsx ∧ t.isEmpty = true) := by
      rintro ⟨-, hempty⟩
      rw [String.isEmpty_iff.1 hempty] at hparse
      cases hparse
    refine ⟨.real x, ?_, .real hvalue⟩
    rw [StoredCell.read, if_neg hempty, hparse]
  | formula h =>
    obtain ⟨x, hparse, hvalue⟩ := exists_parse?_of_writes hn h
    refine ⟨.real x, ?_, .real hvalue⟩
    rw [StoredCell.read, hparse]
    rfl

namespace Cell.Holds

variable {cell : Cell} {n : ℤ}

/-- The text of the cell does not depend on how it holds the number. -/
theorem toText_eq (h : cell.Holds n) (hn : n.natAbs < wholeBound) : cell.toText = toString n := by
  cases h with
  | int => rfl
  | real h =>
    rw [toText, realText, Binary64.toInt?_eq_some_iff.2 h]
    exact if_pos hn

theorem plainNumeral (h : cell.Holds n) (hn : n.natAbs < wholeBound) :
    PlainNumeral cell.toText.toList n := by
  rw [h.toText_eq hn]
  exact plainNumeral_toString n

end Cell.Holds

/-! ## From cells to rows -/

/-- The rows of a sheet below its header, which is the first row with something in it. -/
def Sheet.body (rows : List (List Cell)) : List (List Cell) :=
  ((rectangle rows).dropWhile fun r => isBlankRecord (r.map Cell.toText)).tail

/-- A cell below the header that is not blank stands in a row of the table under its column. -/
theorem Workbook.exists_row {w : Workbook} {s : Sheet} {t : Table} {rows : List (List Cell)}
    (h : w.readSheet s = .ok t) (hcells : s.cells w.format w.from1904 = .ok rows)
    {r : List Cell} (hr : r ∈ Sheet.body rows) {i : ℕ} {cell : Cell} (hi : r[i]? = some cell)
    (hfull : Text.isBlank cell.toText = false) :
    ∃ row ∈ t.rows, ∃ hi : i < t.headers.length, row.getText t.headers[i] = cell.toText := by
  obtain ⟨rows', hcells', -, htable⟩ := readSheet_eq_ok.1 h
  obtain rfl : rows = rows' := Except.ok.inj (hcells.symm.trans hcells')
  obtain ⟨_, _, hsplit, hwidth, hcarries⟩ := Table.exists_carries htable
  -- The records are the rows of the rectangle as texts, and so are the header and those below it.
  rw [Sheet.records, List.dropWhile_map, List.map_eq_cons_iff] at hsplit
  obtain ⟨first, later, hfirst, rfl, rfl⟩ := hsplit
  have hbody : Sheet.body rows = later := congrArg List.tail hfirst
  rw [hbody] at hr
  have hinside : ∀ r ∈ first :: later, r.map Cell.toText ∈ Sheet.records rows := by
    rw [← hfirst]
    exact fun r hr => List.mem_map_of_mem ((List.dropWhile_sublist _).subset hr)
  have hcolumn : i < t.headers.length := by
    obtain ⟨width, hrecords⟩ := Sheet.exists_width rows
    have hheader := hrecords _ (hinside first (List.mem_cons_self ..))
    have hrow := hrecords _ (hinside r (List.mem_cons_of_mem _ hr))
    obtain ⟨hlength, -⟩ := List.getElem?_eq_some_iff.1 hi
    rwa [hwidth, hheader, ← hrow, List.length_map]
  have hcell : (r.map Cell.toText)[i]? = some cell.toText := by
    rw [List.getElem?_map, hi, Option.map_some]
  have hrecord : isBlankRecord (r.map Cell.toText) = false :=
    isBlankRecord_of_full ⟨_, List.mem_of_getElem? hcell, hfull⟩
  obtain ⟨row, hrow, hcarried⟩ := hcarries _ (List.mem_map_of_mem hr) hrecord
  refine ⟨row, hrow, hcolumn, ?_⟩
  rw [TextMap.getText, hcarried.cell i hcolumn, hcell]
  rfl

/-! ## From rows to payloads -/

namespace Payload

/-- In a row a plain numeral stands under a column.  Every payload of this row has the integer, or
its numeral as it stands, under the field that the column goes to. -/
def Gets (row : Row) (header numeral : String) (n : ℤ) : Prop :=
  ∀ (mode : Mode) (m : Mapping) (table : List LookupEntry), m.targets.Nodup →
    ∀ f ∈ mode.fields, ∀ c ∈ m, c.header = header → c.target = some f.key →
      (f.kind = .integer → (ofRow mode m table row).object.lookup f.key = some (.int n)) ∧
      (f.kind = .text → (ofRow mode m table row).object.lookup f.key = some (.str numeral))

theorem spelled_of_plainNumeral {numeral : String} {n : ℤ} (h : PlainNumeral numeral.toList n)
    (key : String) : spelled key numeral = numeral := by
  unfold spelled
  split
  · exact h.upper_eq
  · split
    · exact h.lower_eq
    · rfl

theorem lookup_ofRow {mode : Mode} {m : Mapping} {table : List LookupEntry} {row : Row}
    (distinct : m.targets.Nodup) {f : TargetField} (hf : f ∈ mode.fields)
    (hkind : f.kind ≠ .reference) {c : ColumnMapping} (hc : c ∈ m) (htarget : c.target = some f.key)
    {value : Json} (hvalue : fieldValue? f (row.getText c.header) = some value) :
    (ofRow mode m table row).object.lookup f.key = some value := by
  have hget : (m.apply row).get? f.key = some (row.getText c.header) :=
    (Mapping.get?_apply distinct).2 ⟨c, hc, htarget, rfl⟩
  rw [ofRow, object_build, lookup_of_kind hf hkind, hget, Option.bind_some, hvalue, Option.some_or]

theorem gets_of_plainNumeral {row : Row} {header numeral : String} {n : ℤ}
    (hcell : row.getText header = numeral) (h : PlainNumeral numeral.toList n)
    (hn : n.natAbs ≤ 2 ^ 53) : Gets row header numeral n := by
  rintro mode m table distinct f hf c hc rfl htarget
  constructor
  · intro hkind
    refine lookup_ofRow distinct hf (by simp [hkind]) hc htarget ?_
    rw [hcell, fieldValue?, hkind, h.integer?_eq hn]
    rfl
  · intro hkind
    refine lookup_ofRow distinct hf (by simp [hkind]) hc htarget ?_
    rw [hcell, fieldValue?, hkind, Coercion.text?, h.clean.trimmed?_eq, Option.map_some,
      spelled_of_plainNumeral h]

end Payload

/-! ## The whole way -/

/-- An integer survives the way from a workbook to the payloads. -/
structure SurvivesImport (n : ℤ) : Prop where
  /-- However it is stored, it is read into a cell that holds it. -/
  stored : ∀ stored : StoredCell, stored.Holds n → ∀ format from1904,
    ∃ cell, stored.read format from1904 = .ok cell ∧ cell.Holds n
  /-- The text of such a cell is the plain numeral. -/
  written : ∀ cell : Cell, cell.Holds n → PlainNumeral cell.toText.toList n
  /-- The number is read off it again. -/
  read : ∀ cell : Cell, cell.Holds n → Coercion.integer? cell.toText = some n
  /-- A row with this text in a column gives it to the field of the column. -/
  received : ∀ (cell : Cell) (row : Row) (header : String), cell.Holds n →
    row.getText header = cell.toText → Payload.Gets row header cell.toText n
  /-- Every cell of a sheet that holds it has a row and a column in the table, wherever it stands
  below the header. -/
  carried : ∀ (w : Workbook) (s : Sheet) (t : Table) (rows : List (List Cell)),
    w.readSheet s = .ok t → s.cells w.format w.from1904 = .ok rows →
    ∀ r ∈ Sheet.body rows, ∀ (i : ℕ) (cell : Cell), r[i]? = some cell → cell.Holds n →
      ∃ row ∈ t.rows, ∃ hi : i < t.headers.length, Payload.Gets row t.headers[i] cell.toText n

/-- Whole numbers of at most fifteen digits survive an import. -/
theorem whole_numbers_survive_import {n : ℤ} (hn : n.natAbs < 10 ^ 15) : SurvivesImport n := by
  have hbits : n.natAbs ≤ 2 ^ 53 := hn.le.trans (by decide)
  have hplain : ∀ {cell : Cell}, cell.Holds n → PlainNumeral cell.toText.toList n :=
    fun h => h.plainNumeral hn
  constructor
  case stored => exact fun stored h => h.exists_read hbits
  case written => exact fun cell => hplain
  case read => exact fun cell h => (hplain h).integer?_eq hbits
  case received =>
    exact fun cell row header h hcell => Payload.gets_of_plainNumeral hcell (hplain h) hbits
  case carried =>
    intro w s t rows hread hcells r hr i cell hi h
    obtain ⟨row, hrow, hcolumn, hcell⟩ :=
      Workbook.exists_row hread hcells hr hi (hplain h).clean.full
    exact ⟨row, hrow, hcolumn, Payload.gets_of_plainNumeral hcell (hplain h) hbits⟩

/-- The least integer of fifteen digits, as a double. -/
def Sample.least : Binary64 := .finite true 7999999999999992 (-3)

/-- A sheet with a blank row, a header, and the least integer written with an exponent. -/
def Sample.rooms : Sheet where
  name := "Rooms"
  rows := [
    [.text " "],
    [.text "Bedrooms", .text "Code"],
    [.number "-9.99999999999999E14", .whole 7]]

def Sample.roomCells : List (List Cell) :=
  [[.text " "], [.text "Bedrooms", .text "Code"], [.real Sample.least, .int 7]]

def Sample.roomTable : Table where
  headers := ["Bedrooms", "Code"]
  rows := [⟨[("Bedrooms", "-999999999999999"), ("Code", "7")]⟩]

/-- The least integer and a negative zero are doubles that survive, and the former does so in a
sheet, too. -/
theorem fifteen_nines_survive_import :
    (-999999999999999 : ℤ).natAbs < 10 ^ 15 ∧
      SurvivesImport (-999999999999999) ∧
      (Cell.real Sample.least).toText = "-999999999999999" ∧
      Coercion.integer? (Cell.real Sample.least).toText = some (-999999999999999) ∧
      Coercion.integer? (Cell.real (.zero true)).toText = some 0 ∧
      ∃ row ∈ Sample.roomTable.rows,
        Payload.Gets row "Bedrooms" (Cell.real Sample.least).toText (-999999999999999) := by
  have hbound : (-999999999999999 : ℤ).natAbs < 10 ^ 15 := by decide
  have hleast : Cell.Holds (.real Sample.least) (-999999999999999) :=
    .real (Binary64.toInt?_eq_some_iff.1 (by decide))
  have hzero : Cell.Holds (.real (.zero true)) 0 :=
    .real (Binary64.toInt?_eq_some_iff.1 (by decide +kernel))
  have hcells : Sample.rooms.cells .xlsx false = .ok Sample.roomCells := by decide +kernel
  have htable : (⟨.xlsx, false, []⟩ : Workbook).readSheet Sample.rooms = .ok Sample.roomTable :=
    Workbook.readSheet_eq_ok.2 ⟨_, hcells, by decide +kernel, by decide +kernel⟩
  have hsurvives := whole_numbers_survive_import hbound
  obtain ⟨row, hrow, _, hgets⟩ := hsurvives.carried _ _ _ _ htable hcells
    [.real Sample.least, .int 7] (by decide +kernel) 0 _ rfl hleast
  exact ⟨hbound, hsurvives, by decide +kernel, hsurvives.read _ hleast,
    (whole_numbers_survive_import (by decide)).read _ hzero, row, hrow, hgets⟩

end SheetIntake
