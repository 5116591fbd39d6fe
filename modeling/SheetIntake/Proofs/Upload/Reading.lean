import SheetIntake.Proofs.Table.WellFormed
import SheetIntake.Upload.Content

/-! # What reading a file comes to

    Every table that is read from a file is well formed, whichever way the file is read.  A
    workbook leaves a choice only between two sheets or more, and the sheets it offers are
    its own.  Everything else is an error that says that the file or the sheet cannot be
    read (`ImportError.isUnreadable`), that there is no sheet of the number asked for, or that
    the reading has broken off. -/

namespace SheetIntake

/-- Whether a file or a sheet cannot be read. -/
def ImportError.isUnreadable : ImportError → Bool
  | unreadable _ | noRows | emptySheet _ | passwordProtected => true
  | _ => false

/-! ## One thing after the other -/

section
variable {α β : Type} {x : Except ImportError α} {f : α → Except ImportError β}

theorem bind_eq_ok {b : β} : (x >>= f) = .ok b ↔ ∃ a, x = .ok a ∧ f a = .ok b := by
  cases x <;> simp [bind, Except.bind]

theorem bind_eq_error {e : ImportError} :
    (x >>= f) = .error e ↔ x = .error e ∨ ∃ a, x = .ok a ∧ f a = .error e := by
  cases x <;> simp [bind, Except.bind]

end

/-! ## Delimited text -/

namespace Delimited

theorem decode_wellFormed {bytes : List UInt8} {separator : Option UInt8} {t : Table}
    (h : decode bytes separator = .ok t) : t.WellFormed := by
  simp only [decode] at h
  split at h
  · cases h
  · split at h
    · rename_i table htable
      obtain rfl := Except.ok.inj h
      exact Table.wellFormed_of_ofRecords? htable
    · cases h

theorem decode_error {bytes : List UInt8} {separator : Option UInt8} {e : ImportError}
    (h : decode bytes separator = .error e) : e.isUnreadable = true := by
  simp only [decode] at h
  split at h
  · obtain rfl := Except.error.inj h
    rfl
  · split at h
    · cases h
    · obtain rfl := Except.error.inj h
      rfl

end Delimited

/-! ## Workbooks -/

namespace Workbook

theorem readSheet_wellFormed {w : Workbook} {s : Sheet} {t : Table} (h : w.readSheet s = .ok t) :
    t.WellFormed := by
  unfold readSheet at h
  split at h
  · cases h
  · split at h
    · cases h
    · split at h
      · rename_i table htable
        obtain rfl := Except.ok.inj h
        exact Table.wellFormed_of_ofRecords? htable
      · cases h

/-- A sheet cannot be read, or reading it breaks off. -/
theorem readSheet_error {w : Workbook} {s : Sheet} {e : ImportError}
    (h : w.readSheet s = .error e) : e.isUnreadable = true ∨ ∃ detail, e = .overflow detail := by
  unfold readSheet at h
  split at h
  · obtain rfl := Except.error.inj h
    exact .inl rfl
  · split at h
    · obtain rfl := Except.error.inj h
      exact .inr ⟨_, rfl⟩
    · split at h
      · cases h
      · obtain rfl := Except.error.inj h
        exact .inl rfl

/-- What is read under a name is one of the sheets. -/
theorem exists_sheet_of_readNamed {w : Workbook} {name : String} {t : Table}
    (h : w.readNamed name = .ok t) : ∃ s ∈ w.sheets, w.readSheet s = .ok t := by
  unfold readNamed at h
  split at h
  · rename_i s hfound
    exact ⟨s, List.mem_of_find?_eq_some hfound, h⟩
  · cases h

theorem readNamed_error {w : Workbook} {name : String} {e : ImportError}
    (h : w.readNamed name = .error e) :
    e.isUnreadable = true ∨ ∃ detail, e = .overflow detail := by
  unfold readNamed at h
  split at h
  · exact readSheet_error h
  · obtain rfl := Except.error.inj h
    exact .inl rfl

theorem exists_sheet_of_decodeSheet {w : Workbook} {number : Nat} {t : Table}
    (h : w.decodeSheet number = .ok t) : ∃ s ∈ w.sheets, w.readSheet s = .ok t := by
  unfold decodeSheet at h
  split at h
  · cases h
  · split at h
    · exact exists_sheet_of_readNamed h
    · cases h

/-- There is no such sheet, or it cannot be read, or reading it breaks off. -/
theorem decodeSheet_error {w : Workbook} {number : Nat} {e : ImportError}
    (h : w.decodeSheet number = .error e) :
    e = .sheetOutOfRange number w.names.length ∨ e.isUnreadable = true ∨
      ∃ detail, e = .overflow detail := by
  unfold decodeSheet at h
  split at h
  · obtain rfl := Except.error.inj h
    exact .inl rfl
  · split at h
    · exact .inr (readNamed_error h)
    · obtain rfl := Except.error.inj h
      exact .inl rfl

/-- Sheets are numbered from 1 on. -/
theorem decodeSheet_out_of_range {w : Workbook} {number : Nat}
    (h : number = 0 ∨ w.names.length < number) :
    w.decodeSheet number = .error (.sheetOutOfRange number w.names.length) := by
  cases number with
  | zero => rfl
  | succ n =>
    have hnone : w.names[n]? = none := List.getElem?_eq_none (by omega)
    simp only [decodeSheet, hnone]

end Workbook

/-! ## Files -/

namespace Content

/-- A workbook that is not taken for protected is opened. -/
theorem openWorkbook_workbook {w : Workbook} (h : w.looksProtected = false) :
    (workbook w).openWorkbook = .ok w := if_neg (by simp [h])

theorem openWorkbook_error {c : Content} {e : ImportError} (h : c.openWorkbook = .error e) :
    e.isUnreadable = true := by
  unfold openWorkbook at h
  split at h
  · split at h
    · obtain rfl := Except.error.inj h
      rfl
    · obtain rfl := Except.error.inj h
      rfl
  · split at h
    · obtain rfl := Except.error.inj h
      rfl
    · cases h

/-- The table is that of one of the sheets of the file. -/
def HasSheet (c : Content) (t : Table) : Prop :=
  ∃ w, c.openWorkbook = .ok w ∧ ∃ s ∈ w.sheets, w.readSheet s = .ok t

theorem HasSheet.wellFormed {c : Content} {t : Table} (h : c.HasSheet t) : t.WellFormed := by
  obtain ⟨w, -, s, -, hsheet⟩ := h
  exact Workbook.readSheet_wellFormed hsheet

theorem hasSheet_of_decodeSheet {c : Content} {number : Nat} {t : Table}
    (h : c.decodeSheet number = .ok t) : c.HasSheet t := by
  obtain ⟨w, hopen, hsheet⟩ := bind_eq_ok.1 h
  exact ⟨w, hopen, Workbook.exists_sheet_of_decodeSheet hsheet⟩

theorem decodeSheet_wellFormed {c : Content} {number : Nat} {t : Table}
    (h : c.decodeSheet number = .ok t) : t.WellFormed :=
  (hasSheet_of_decodeSheet h).wellFormed

theorem decodeSheet_error {c : Content} {number : Nat} {e : ImportError}
    (h : c.decodeSheet number = .error e) :
    (∃ count, e = .sheetOutOfRange number count) ∨ e.isUnreadable = true ∨
      ∃ detail, e = .overflow detail := by
  rcases bind_eq_error.1 h with hopen | ⟨w, -, hsheet⟩
  · exact .inr (.inl (openWorkbook_error hopen))
  · exact (Workbook.decodeSheet_error hsheet).imp_left fun heq => ⟨_, heq⟩

/-- A file whose sheets have been listed has no sheet 0, and none beyond the last. -/
theorem decodeSheet_out_of_range {c : Content} {names : List String} {number : Nat}
    (listed : c.sheetNames = .ok names) (h : number = 0 ∨ names.length < number) :
    c.decodeSheet number = .error (.sheetOutOfRange number names.length) := by
  unfold sheetNames at listed
  cases hw : c.openWorkbook with
  | error e => simp [hw, Except.map] at listed
  | ok w =>
    obtain rfl : w.names = names := by simpa [hw, Except.map] using listed
    exact bind_eq_error.2 (.inr ⟨w, hw, Workbook.decodeSheet_out_of_range h⟩)

theorem decodeWorkbook_ok {c : Content} {d : Decoded} (h : c.decodeWorkbook = .ok d) :
    (∃ name t, d = .table name t ∧ c.HasSheet t) ∨
      ∃ names, d = .choice names ∧ c.sheetNames = .ok names ∧ 2 ≤ names.length := by
  obtain ⟨w, hw, hread⟩ := bind_eq_ok.1 h
  match hn : w.names with
  | [] => simp [hn] at hread
  | [name] =>
    rw [hn] at hread
    obtain ⟨t, hsheet, ht⟩ := bind_eq_ok.1 hread
    obtain rfl := Except.ok.inj ht
    exact .inl ⟨some name, t, rfl, w, hw, Workbook.exists_sheet_of_readNamed hsheet⟩
  | first :: second :: rest =>
    rw [hn] at hread
    obtain rfl := Except.ok.inj hread
    exact .inr ⟨first :: second :: rest, rfl, by simp [sheetNames, hw, hn, Except.map], by simp⟩

theorem decodeWorkbook_error {c : Content} {e : ImportError} (h : c.decodeWorkbook = .error e) :
    e.isUnreadable = true ∨ ∃ detail, e = .overflow detail := by
  rcases bind_eq_error.1 h with hopen | ⟨w, -, hread⟩
  · exact .inl (openWorkbook_error hopen)
  · match hn : w.names with
    | [] =>
      rw [hn] at hread
      obtain rfl := Except.error.inj hread
      exact .inl rfl
    | [name] =>
      rw [hn] at hread
      rcases bind_eq_error.1 hread with hsheet | ⟨t, -, ht⟩
      · exact Workbook.readNamed_error hsheet
      · cases ht
    | _ :: _ :: _ =>
      rw [hn] at hread
      cases hread

/-- Reading gives a well-formed table, or a choice between the sheets of the workbook, of
which there are two at least. -/
theorem read_ok {c : Content} {format : FileFormat} {d : Decoded} (h : c.read format = .ok d) :
    (∃ name t, d = .table name t ∧ t.WellFormed) ∨
      ∃ names, d = .choice names ∧ c.sheetNames = .ok names ∧ 2 ≤ names.length := by
  cases format with
  | delimited tabSeparated =>
    obtain ⟨t, hdecode, ht⟩ := bind_eq_ok.1 h
    obtain rfl := Except.ok.inj ht
    exact .inl ⟨none, t, rfl, Delimited.decode_wellFormed hdecode⟩
  | workbook =>
    obtain ⟨d', hdecode, hd⟩ := bind_eq_ok.1 h
    obtain ⟨name, t, rfl, ht⟩ | ⟨names, rfl, hnames⟩ := decodeWorkbook_ok hdecode
    · obtain rfl := Except.ok.inj hd
      exact .inl ⟨_, t, rfl, ht.wellFormed⟩
    · obtain rfl := Except.ok.inj hd
      exact .inr ⟨names, rfl, hnames⟩

/-- A file cannot be read, or reading it breaks off. -/
theorem read_error {c : Content} {format : FileFormat} {e : ImportError}
    (h : c.read format = .error e) : e.isUnreadable = true ∨ ∃ detail, e = .overflow detail := by
  cases format with
  | delimited tabSeparated =>
    rcases bind_eq_error.1 h with hdecode | ⟨t, -, ht⟩
    · exact .inl (Delimited.decode_error hdecode)
    · cases ht
  | workbook =>
    rcases bind_eq_error.1 h with hdecode | ⟨d, -, hd⟩
    · exact decodeWorkbook_error hdecode
    · cases d <;> cases hd

end Content

end SheetIntake
