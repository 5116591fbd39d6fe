import SheetIntake.Proofs.Table.WellFormed
import SheetIntake.Upload.Content

/-! # What a table holds of its file

    Both decoders reduce a file to records of cells and make a table of them.  The first record
    with something in it gives one column per cell.  As the names are distinct, no cell of a
    later record replaces another: the i-th cell stands under the i-th column, and the later
    records with something in them are the rows, in their order (`Table.Holds`). -/

namespace SheetIntake

/-! ## Maps of distinct keys -/

/-- Under distinct keys, what a key stands for is what is entered with it. -/
theorem TextMap.get?_eq_some_iff {entries : List (String × String)}
    (h : (entries.map Prod.fst).Nodup) {key value : String} :
    (⟨entries⟩ : TextMap).get? key = some value ↔ (key, value) ∈ entries := by
  show entries.lookup key = some value ↔ _
  induction entries with
  | nil => simp
  | cons e es ih =>
    obtain ⟨hnew, hes⟩ := List.nodup_cons.1 h
    rw [List.lookup_cons, List.mem_cons, Prod.ext_iff]
    cases hkey : key == e.1 with
    | true =>
      obtain rfl := eq_of_beq hkey
      have hlater : (e.1, value) ∉ es := fun hmem =>
        hnew (List.mem_map.2 ⟨_, hmem, rfl⟩)
      simp [hlater, eq_comm]
    | false =>
      rw [beq_eq_false_iff_ne] at hkey
      simp [hkey, ih hes]

/-- Under distinct keys every key stands for the value at its own place. -/
theorem TextMap.get?_zip {keys : List String} (h : keys.Nodup) (values : List String) {i : Nat}
    (hi : i < keys.length) : (⟨keys.zip values⟩ : TextMap).get? keys[i] = values[i]? := by
  show (keys.zip values).lookup keys[i] = values[i]?
  induction keys generalizing values i with
  | nil => cases hi
  | cons k ks ih =>
    obtain ⟨hnew, hks⟩ := List.nodup_cons.1 h
    cases values with
    | nil => simp
    | cons v vs =>
      cases i with
      | zero => simp
      | succ i =>
        have hlt : i < ks.length := by simpa using hi
        have hne : (ks[i] == k) = false := by
          rw [beq_eq_false_iff_ne]
          rintro rfl
          exact hnew (List.getElem_mem hlt)
        simpa [List.lookup_cons, hne] using ih hks vs hlt

/-- A key of no column stands for nothing. -/
theorem TextMap.get?_zip_of_not_mem {keys : List String} {key : String} (h : key ∉ keys)
    (values : List String) : (⟨keys.zip values⟩ : TextMap).get? key = none := by
  refine List.lookup_eq_none_iff.2 fun p hp => ?_
  have hmem : p.1 ∈ keys := (List.of_mem_zip hp).1
  rw [bne_iff_ne]
  rintro rfl
  exact h hmem

/-! ## Rows and records -/

theorem isBlankRecord_of_full {cells : List String}
    (h : ∃ cell ∈ cells, Text.isBlank cell = false) : isBlankRecord cells = false := by
  obtain ⟨cell, hcell, hfull⟩ := h
  exact List.all_eq_false.2 ⟨cell, hcell, by simp [hfull]⟩

/-- A row has exactly the columns, and under each of them the cell at its place in the record,
or the empty text where the record is shorter. -/
structure Row.Carries (headers cells : List String) (row : Row) : Prop where
  columns : row.keys = headers
  cell : ∀ i (h : i < headers.length), row.get? headers[i] = some (cells[i]?.getD "")

theorem Row.carries_ofCells {headers : List String} (h : headers.Nodup) (cells : List String) :
    Row.Carries headers cells (Row.ofCells headers cells) where
  columns := Row.keys_ofCells h cells
  cell i hi := by rw [Row.ofCells_eq h, TextMap.get?_zip h _ hi, getElem?_fitted hi]

namespace Table

/-- A table has a column for every cell of the first record, and a row for every later record
with something in it. -/
structure HasContents (first : List String) (later : List (List String)) (t : Table) : Prop where
  width : t.headers.length = first.length
  distinct : t.headers.Nodup
  clean : ∀ header ∈ t.headers, Text.Clean header
  rows : List.Forall₂ (Row.Carries t.headers) (later.filter fun r => !isBlankRecord r) t.rows

/-- A table holds the records of a file: those before the header are blank, and none behind it
is lost unless it is blank. -/
def Holds (records : List (List String)) (t : Table) : Prop :=
  ∃ before first later, records = before ++ first :: later ∧
    (∀ r ∈ before, isBlankRecord r = true) ∧ isBlankRecord first = false ∧
    t.HasContents first later

/-- Every table that is made of records holds them. -/
theorem holds_of_ofRecords? {records : List (List String)} {t : Table}
    (h : ofRecords? records = some t) : t.Holds records := by
  unfold ofRecords? at h
  split at h
  · cases h
  · rename_i first later hfirst
    simp only at h
    split at h
    · cases h
    · obtain rfl := Option.some.inj h
      refine ⟨records.takeWhile isBlankRecord, first, later, ?_, ?_, ?_, ?_⟩
      · rw [← hfirst, List.takeWhile_append_dropWhile]
      · exact fun r hr => List.mem_takeWhile_imp hr
      · exact first_full hfirst
      · refine ⟨Naming.length_nameFrom .., Naming.nodup_name first,
          fun _ => Naming.clean_of_mem_nameFrom, ?_⟩
        rw [rowsOf, List.forall₂_map_right_iff, List.forall₂_same]
        exact fun cells _ => Row.carries_ofCells (Naming.nodup_name first) cells

/-- The first record that is not blank gives the headers. -/
theorem headers_of_ofRecords? {records : List (List String)} {t : Table}
    (h : ofRecords? records = some t) :
    ∃ first, records.find? (fun r => !isBlankRecord r) = some first ∧
      t.headers = Naming.name first := by
  rw [List.find?_eq_head?_dropWhile_not]
  simp only [Bool.not_not]
  unfold ofRecords? at h
  split at h
  · cases h
  · rename_i first later hfirst
    simp only at h
    split at h
    · cases h
    · obtain rfl := Option.some.inj h
      exact ⟨first, by rw [hfirst, List.head?_cons], rfl⟩

/-- Every record below the header with something in it has a row that carries it. -/
theorem exists_carries {records : List (List String)} {t : Table}
    (h : ofRecords? records = some t) :
    ∃ first later, records.dropWhile isBlankRecord = first :: later ∧
      t.headers.length = first.length ∧
      ∀ r ∈ later, isBlankRecord r = false → ∃ row ∈ t.rows, Row.Carries t.headers r row := by
  obtain ⟨before, first, later, rfl, hblank, hfirst, hcontents⟩ := holds_of_ofRecords? h
  refine ⟨first, later, ?_, hcontents.width, ?_⟩
  · rw [List.dropWhile_append_of_pos hblank, List.dropWhile_cons_of_neg (by simp [hfirst])]
  · intro r hr hfull
    have hkept : r ∈ later.filter fun r => !isBlankRecord r :=
      List.mem_filter.2 ⟨hr, by simp [hfull]⟩
    obtain ⟨i, hi, rfl⟩ := List.getElem_of_mem hkept
    have hlength := hcontents.rows.length_eq
    exact ⟨t.rows[i], List.getElem_mem _, hcontents.rows.get hi (hlength ▸ hi)⟩

/-- How many records have something in them. -/
def fullCount (records : List (List String)) : Nat := records.countP fun r => !isBlankRecord r

theorem fullCount_cons_full {r : List String} (h : isBlankRecord r = false)
    (rs : List (List String)) : fullCount (r :: rs) = fullCount rs + 1 := by
  simp [fullCount, h]

/-- Blank records in front count for nothing. -/
theorem fullCount_append_blank {before : List (List String)}
    (h : ∀ r ∈ before, isBlankRecord r = true) (rs : List (List String)) :
    fullCount (before ++ rs) = fullCount rs := by
  have hnone : before.countP (fun r => !isBlankRecord r) = 0 :=
    List.countP_eq_zero.2 fun r hr => by simp [h r hr]
  rw [fullCount, List.countP_append, hnone, Nat.zero_add, fullCount]

theorem length_rowsOf (headers : List String) (records : List (List String)) :
    (rowsOf headers records).length = fullCount records := by
  rw [rowsOf, List.length_map, fullCount, List.countP_eq_length_filter]

/-- There is no table exactly when at most one record has something in it; else all of these
records but the first are rows. -/
theorem ofRecords?_cases (records : List (List String)) :
    (ofRecords? records = none ∧ fullCount records ≤ 1) ∨
      ∃ t, ofRecords? records = some t ∧ t.rows ≠ [] ∧ t.rows.length + 1 = fullCount records := by
  have hcount : fullCount records = fullCount (records.dropWhile isBlankRecord) := by
    have hsplit := @List.takeWhile_append_dropWhile _ isBlankRecord records
    have hblank : ∀ r ∈ records.takeWhile isBlankRecord, isBlankRecord r = true :=
      fun r hr => List.mem_takeWhile_imp hr
    have hdrop := fullCount_append_blank hblank (records.dropWhile isBlankRecord)
    rwa [hsplit] at hdrop
  rw [hcount, ofRecords?]
  cases hdrop : records.dropWhile isBlankRecord with
  | nil => exact .inl ⟨rfl, by simp [fullCount]⟩
  | cons first later =>
    rw [fullCount_cons_full (first_full hdrop), ← length_rowsOf (Naming.name first) later]
    dsimp only
    split
    · rename_i hrows
      exact .inl ⟨rfl, by simp [hrows]⟩
    · rename_i hrows
      exact .inr ⟨_, rfl, hrows, rfl⟩

/-- Records of one width under clean and distinct headers are the rows as they stand. -/
theorem ofRecords?_eq {headers : List String} {rows : List (List String)} (hne : headers ≠ [])
    (clean : ∀ header ∈ headers, Text.Clean header) (distinct : headers.Nodup) (hrows : rows ≠ [])
    (width : ∀ r ∈ rows, r.length = headers.length)
    (full : ∀ r ∈ rows, isBlankRecord r = false) :
    ofRecords? (headers :: rows) =
      some { headers, rows := rows.map fun cells => ⟨headers.zip cells⟩ } := by
  have hfirst : isBlankRecord headers = false := by
    obtain ⟨header, hmem⟩ := List.exists_mem_of_ne_nil headers hne
    exact isBlankRecord_of_full ⟨header, hmem, (clean header hmem).full⟩
  have hkept : rows.filter (fun r => !isBlankRecord r) = rows :=
    List.filter_eq_self.2 fun r hr => by simp [full r hr]
  have hcells : rows.map (Row.ofCells headers) = rows.map fun cells => ⟨headers.zip cells⟩ :=
    List.map_congr_left fun r hr => by rw [Row.ofCells_eq distinct, fitted_of_length (width r hr)]
  rw [ofRecords?, List.dropWhile_cons_of_neg (by simp [hfirst])]
  simp only [Naming.name_eq_self clean distinct, rowsOf, hkept, hcells]
  split
  · rename_i hnil
    exact absurd (List.map_eq_nil_iff.1 hnil) hrows
  · rfl

end Table

/-! ## What the decoders make tables of -/

namespace Delimited

/-- The records of a file; the separator is guessed if there is none. -/
def recordsOf (bytes : List UInt8) (separator : Option UInt8) :
    Except BadCell (List (List String)) :=
  let text := decodeText bytes
  readRecords (separator.getD (UInt8.ofNat (sniff text).toNat)) text

/-- The decoder in two steps: the records of the file, and their table. -/
theorem decode_eq (bytes : List UInt8) (separator : Option UInt8) :
    decode bytes separator =
      match recordsOf bytes separator with
      | .error bad => .error (.unreadable bad.message)
      | .ok records =>
        match Table.ofRecords? records with
        | some table => .ok table
        | none => .error .noRows := rfl

theorem decode_eq_ok {bytes : List UInt8} {separator : Option UInt8} {t : Table} :
    decode bytes separator = .ok t ↔
      ∃ records, recordsOf bytes separator = .ok records ∧ Table.ofRecords? records = some t := by
  rw [decode_eq]
  cases recordsOf bytes separator with
  | error bad => simp
  | ok records => cases h : Table.ofRecords? records <;> simp [h]

end Delimited

/-- The records of a sheet are the rows of a rectangle. -/
theorem Sheet.exists_width (rows : List (List Cell)) :
    ∃ width, ∀ r ∈ records rows, r.length = width := by
  refine ⟨(((occupiedRows rows).map reach).max?).getD 0 -
    (((occupiedRows rows).filterMap leading?).min?).getD 0, ?_⟩
  intro r hr
  obtain ⟨row, hrow, rfl⟩ := List.mem_map.1 hr
  obtain ⟨cells, -, rfl⟩ := List.mem_map.1 hrow
  simp only [List.length_map, List.length_drop, List.length_take, List.length_append,
    List.length_replicate]
  omega

namespace Workbook

/-- A sheet is read if its cells can be read and make a table. -/
theorem readSheet_eq_ok {w : Workbook} {s : Sheet} {t : Table} :
    w.readSheet s = .ok t ↔
      ∃ rows, s.cells w.format w.from1904 = .ok rows ∧
        (rows.any fun row => row.any Cell.overflows) = false ∧
        Table.ofRecords? (Sheet.records rows) = some t := by
  unfold readSheet
  cases s.cells w.format w.from1904 with
  | error detail => simp
  | ok rows =>
    simp only [Except.ok.injEq, exists_eq_left']
    generalize (rows.any fun row => row.any Cell.overflows) = tooLong
    cases tooLong with
    | true => simp
    | false => cases h : Table.ofRecords? (Sheet.records rows) <;> simp

end Workbook

/-- No row and no cell is lost, moved or overwritten: a table holds the records that it is made
of, whatever they are, and so do the tables that are read from delimited text and from sheets. -/
theorem tables_hold_their_records :
    (∀ (records : List (List String)) (t : Table),
      Table.ofRecords? records = some t → t.Holds records) ∧
    (∀ (bytes : List UInt8) (separator : Option UInt8) (t : Table),
      Delimited.decode bytes separator = .ok t →
        ∃ records, Delimited.recordsOf bytes separator = .ok records ∧ t.Holds records) ∧
    (∀ (w : Workbook) (s : Sheet) (t : Table), w.readSheet s = .ok t →
      ∃ rows, s.cells w.format w.from1904 = .ok rows ∧ t.Holds (Sheet.records rows)) := by
  refine ⟨fun _ _ => Table.holds_of_ofRecords?, ?_, ?_⟩
  · intro bytes separator t h
    obtain ⟨records, hrecords, htable⟩ := Delimited.decode_eq_ok.1 h
    exact ⟨records, hrecords, Table.holds_of_ofRecords? htable⟩
  · intro w s t h
    obtain ⟨rows, hrows, -, htable⟩ := Workbook.readSheet_eq_ok.1 h
    exact ⟨rows, hrows, Table.holds_of_ofRecords? htable⟩

/-- A blank record before the header, header cells that ask for the same names, a record that is
too short, a blank one, one whose only text is beyond the last column and one that is too long. -/
def raggedRecords : List (List String) :=
  [["", " "], [" X ", "", "X", "X_1", "Column 2"], ["a", "b"], [" ", ""],
    ["", "", "", "", "", "z"], ["1", "2", "3", "4", "5", "6"]]

def raggedTable : Table where
  headers := ["X", "Column 2", "X_1", "X_1_1", "Column 2_1"]
  rows := [
    ⟨[("X", "a"), ("Column 2", "b"), ("X_1", ""), ("X_1_1", ""), ("Column 2_1", "")]⟩,
    ⟨[("X", ""), ("Column 2", ""), ("X_1", ""), ("X_1_1", ""), ("Column 2_1", "")]⟩,
    ⟨[("X", "1"), ("Column 2", "2"), ("X_1", "3"), ("X_1_1", "4"), ("Column 2_1", "5")]⟩]

theorem ragged_records_hold :
    Table.ofRecords? raggedRecords = some raggedTable ∧ raggedTable.Holds raggedRecords ∧
      (∃ records,
        Delimited.recordsOf (Text.Utf8.bytes "\n ;\nX;X\n\"a;\nb\"\n1;2;3") none = .ok records ∧
          Table.Holds records
            ⟨["X", "X_1"], [⟨[("X", "a;\nb"), ("X_1", "")]⟩, ⟨[("X", "1"), ("X_1", "2")]⟩]⟩) ∧
      ∃ rows,
        Sheet.cells ⟨"S", [[.nothing, .text "X"], [.nothing, .whole 7, .bool true]]⟩ .xlsx false =
            .ok rows ∧
          Table.Holds (Sheet.records rows)
            ⟨["X", "Column 2"], [⟨[("X", "7"), ("Column 2", "true")]⟩]⟩ :=
  have hragged : Table.ofRecords? raggedRecords = some raggedTable := by decide
  ⟨hragged, tables_hold_their_records.1 raggedRecords raggedTable hragged,
    tables_hold_their_records.2.1 _ none _ (by rfl),
    tables_hold_their_records.2.2 ⟨.xlsx, false, []⟩ _ _ (by rfl)⟩

end SheetIntake
