import SheetIntake.Proofs.Session.Outcomes
import SheetIntake.Proofs.Session.Transitions
import SheetIntake.Proofs.Table.Contents

/-! # Rows with something in them

    Records of nothing but blank cells are dropped, and records are cut to the width of the table.
    Dropping comes first, and it looks at all cells.  So a record that holds something, but only
    beyond the last column, is kept and then loses all that it holds: it *spills*.  A table has no
    blank row exactly if no record of its file spills (`Table.Holds.isFull_iff`).

    The rows of a sheet are those of a rectangle, so nothing of them lies beyond the last column
    (`Workbook.isFull_of_readSheet`).  Only delimited text can spill. -/

namespace SheetIntake

/-! ## Rows and their records -/

/-- Something stands under one of the headers. -/
def Row.IsFull (headers : List String) (row : Row) : Prop :=
  ∃ header ∈ headers, Text.isBlank (row.getText header) = false

instance (headers : List String) : DecidablePred (Row.IsFull headers) := fun row =>
  inferInstanceAs (Decidable (∃ header ∈ headers, Text.isBlank (row.getText header) = false))

/-- The record holds something, but only beyond the last column. -/
def Spills (width : Nat) (cells : List String) : Prop :=
  isBlankRecord cells = false ∧ isBlankRecord (cells.take width) = true

/-- No row is blank. -/
def Table.IsFull (t : Table) : Prop := ∀ row ∈ t.rows, Row.IsFull t.headers row

instance : DecidablePred Table.IsFull := fun t =>
  inferInstanceAs (Decidable (∀ row ∈ t.rows, Row.IsFull t.headers row))

theorem isBlankRecord_eq_false {cells : List String} :
    isBlankRecord cells = false ↔ ∃ cell ∈ cells, Text.isBlank cell = false := by
  simp [isBlankRecord]

/-- A row has something in it if its record has something within the width of the table. -/
theorem Row.isFull_iff {headers cells : List String} {row : Row}
    (h : Row.Carries headers cells row) :
    Row.IsFull headers row ↔ isBlankRecord (cells.take headers.length) = false := by
  rw [isBlankRecord_eq_false]
  constructor
  · rintro ⟨header, hmem, hfull⟩
    obtain ⟨i, hi, rfl⟩ := List.getElem_of_mem hmem
    rw [TextMap.getText, h.cell i hi, Option.getD_some] at hfull
    -- Where the record is too short, the row is blank.
    cases hcell : cells[i]? with
    | none => simp [hcell, Text.isBlank] at hfull
    | some cell =>
      obtain ⟨hlt, rfl⟩ := List.getElem?_eq_some_iff.1 hcell
      exact ⟨cells[i], List.mem_take_iff_getElem.2 ⟨i, by omega, rfl⟩, by simpa [hcell] using hfull⟩
  · rintro ⟨cell, hmem, hfull⟩
    obtain ⟨i, hi, rfl⟩ := List.mem_take_iff_getElem.1 hmem
    have hwidth : i < headers.length := by omega
    have hlength : i < cells.length := by omega
    refine ⟨headers[i], List.getElem_mem hwidth, ?_⟩
    rw [TextMap.getText, h.cell i hwidth, List.getElem?_eq_getElem hlength]
    exact hfull

/-- What holds of the members of one list exactly if it holds of their partners in another, holds
of all of them or of none. -/
theorem forall_mem_iff_of_forall₂ {α β : Type} {R : α → β → Prop} {P : α → Prop} {Q : β → Prop}
    {as : List α} {bs : List β} (h : List.Forall₂ R as bs) (partners : ∀ a b, R a b → (P a ↔ Q b)) :
    (∀ a ∈ as, P a) ↔ ∀ b ∈ bs, Q b := by
  induction h with
  | nil => simp
  | cons hab _ ih => rw [List.forall_mem_cons, List.forall_mem_cons, partners _ _ hab, ih]

namespace Table

variable {first : List String} {later records : List (List String)} {t : Table}

theorem HasContents.isFull_iff (h : t.HasContents first later) :
    t.IsFull ↔ ∀ r ∈ later, ¬ Spills t.headers.length r := by
  rw [IsFull, ← forall_mem_iff_of_forall₂ h.rows fun _ _ hrow => (Row.isFull_iff hrow).symm]
  simp [Spills]

/-- No row is blank exactly if no record of the file spills. -/
theorem Holds.isFull_iff (h : t.Holds records) :
    t.IsFull ↔ ∀ r ∈ records, ¬ Spills t.headers.length r := by
  obtain ⟨before, first, later, rfl, hbefore, hfirst, hcontents⟩ := h
  -- Blank records have nothing to lose, and the header is as wide as the table.
  have hblank : ∀ r ∈ before, ¬ Spills t.headers.length r := by
    rintro r hr ⟨hfull, -⟩
    simp [hbefore r hr] at hfull
  have hheader : ¬ Spills t.headers.length first := by
    rintro ⟨-, hcut⟩
    simp [hcontents.width, hfirst] at hcut
  rw [hcontents.isFull_iff, List.forall_mem_append, List.forall_mem_cons]
  exact ⟨fun hlater => ⟨hblank, hheader, hlater⟩, fun hall => hall.2.2⟩

end Table

/-! ## Delimited text -/

/-- The file has a table, but one of its records spills. -/
def Delimited.HasSpill (bytes : List UInt8) (separator : Option UInt8) : Prop :=
  ∃ records t, recordsOf bytes separator = .ok records ∧ Table.ofRecords? records = some t ∧
    ∃ r ∈ records, Spills t.headers.length r

theorem Delimited.isFull_iff {bytes : List UInt8} {separator : Option UInt8} {t : Table}
    (h : decode bytes separator = .ok t) : t.IsFull ↔ ¬ HasSpill bytes separator := by
  obtain ⟨records, hrecords, htable⟩ := decode_eq_ok.1 h
  rw [(Table.holds_of_ofRecords? htable).isFull_iff]
  constructor
  · rintro hnone ⟨records', t', hrecords', htable', r, hr, hspill⟩
    obtain rfl : records = records' := Except.ok.inj (hrecords.symm.trans hrecords')
    obtain rfl : t = t' := Option.some.inj (htable.symm.trans htable')
    exact hnone r hr hspill
  · exact fun hnone r hr hspill => hnone ⟨records, t, hrecords, htable, r, hr, hspill⟩

/-! ## Workbooks -/

namespace Workbook

variable {w : Workbook} {t : Table}

theorem isFull_of_readSheet {s : Sheet} (h : w.readSheet s = .ok t) : t.IsFull := by
  obtain ⟨rows, -, -, htable⟩ := readSheet_eq_ok.1 h
  have hholds := Table.holds_of_ofRecords? htable
  refine hholds.isFull_iff.2 fun r hr hspill => ?_
  -- The header is one of the rows of the rectangle, and so as wide as any other.
  obtain ⟨width, hwidth⟩ := Sheet.exists_width rows
  obtain ⟨before, first, later, hrecords, -, -, hcontents⟩ := hholds
  have hfirst : first.length = width := hwidth first (by simp [hrecords])
  rw [Spills, hcontents.width, hfirst, ← hwidth r hr, List.take_length] at hspill
  simp [hspill.1] at hspill

end Workbook

/-! ## Files -/

namespace Content

variable {c : Content} {t : Table}

/-- The file, read in the format, has a record that spills. -/
def HasSpill (c : Content) : FileFormat → Prop
  | .delimited tabSeparated =>
    Delimited.HasSpill c.textBytes (if tabSeparated then some 0x09 else none)
  | .workbook => False

theorem HasSheet.isFull (h : c.HasSheet t) : t.IsFull := by
  obtain ⟨w, -, s, -, hsheet⟩ := h
  exact Workbook.isFull_of_readSheet hsheet

/-- The table that a file is read as has no blank row exactly if no record of it spills. -/
theorem isFull_iff {format : FileFormat} {name : Option String}
    (h : c.read format = .ok (.table name t)) : t.IsFull ↔ ¬ c.HasSpill format := by
  cases format with
  | delimited tabSeparated =>
    obtain ⟨t', hdecode, ht⟩ := bind_eq_ok.1 h
    obtain ⟨-, rfl⟩ := Decoded.table.inj (Except.ok.inj ht)
    exact Delimited.isFull_iff hdecode
  | workbook =>
    obtain ⟨d, hdecode, hd⟩ := bind_eq_ok.1 h
    obtain ⟨name', t', rfl, hsheet⟩ | ⟨names, rfl, -⟩ := decodeWorkbook_ok hdecode
    · obtain ⟨-, rfl⟩ := Decoded.table.inj (Except.ok.inj hd)
      exact iff_of_true hsheet.isFull id
    · cases hd

end Content

/-! ## Sessions -/

/-- The table of the stage has no blank row, and the file of a stage before it has no record that
spills. -/
def SessionStage.IsFull : SessionStage → Prop
  | .idle | .choosing .. => True
  | .selected _ format content => ¬ content.HasSpill format
  | .review d | .submitting d | .completed d _ => d.table.IsFull

namespace Session

/-- The action brings no file with a record that spills. -/
def Action.SpillsNothing : Action → Prop
  | .selectFile name content =>
    ∀ format, FileFormat.ofName name = .ok format → ¬ content.HasSpill format
  | _ => True

variable {s : Session}

theorem isFull_decode (h : s.stage.IsFull) : s.decode.1.stage.IsFull := by
  unfold decode
  split
  · rename_i name format content hstage
    rw [hstage] at h
    split
    · trivial
    · rename_i hread
      exact (Content.isFull_iff hread).2 h
    · rwa [hstage]
    · trivial
  · exact h

theorem isFull_chooseSheet (h : s.stage.IsFull) (number : Nat) :
    (s.chooseSheet number).1.stage.IsFull := by
  unfold chooseSheet
  split
  · rename_i hstage
    split
    · rename_i hread
      exact (Content.hasSheet_of_decodeSheet hread).isFull
    · exact h
    · exact h
    · trivial
  · exact h

/-- An action that does not read the file leaves the rows as they are. -/
theorem Transition.isFull {s' : Session} {a : Action} {answer : Except ImportError Answer}
    (t : Transition s a s' answer) (quiet : a.reads = false) (ha : a.SpillsNothing)
    (h : s.stage.IsFull) : s'.stage.IsFull := by
  cases t with
  | refuse | build => exact h
  | giveUp | clear => trivial
  | select idle known => exact ha _ known
  | offer | read => simp_all [Action.reads]
  | edit reviewed | begin reviewed =>
    rw [reviewed] at h
    exact h
  | abort submitting | complete submitting =>
    rw [submitting] at h
    exact h

/-- No action makes a row blank. -/
theorem isFull_perform (h : s.stage.IsFull) {a : Action} (ha : a.SpillsNothing) :
    (s.perform a).1.stage.IsFull := by
  match a with
  | .decode => exact isFull_decode h
  | .chooseSheet number => exact isFull_chooseSheet h number
  | .selectFile .. | .assign .. | .replaceMapping _ | .begin | .payloads _ | .abort | .complete _
  | .cancel | .reset => exact (transition_perform s _).isFull rfl ha h

theorem isFull_after (h : s.stage.IsFull) {actions : List Action}
    (hactions : ∀ a ∈ actions, a.SpillsNothing) : (s.after actions).stage.IsFull := by
  induction actions generalizing s with
  | nil => exact h
  | cons a actions ih =>
    obtain ⟨ha, hrest⟩ := List.forall_mem_cons.1 hactions
    exact ih (isFull_perform h ha) hrest

/-- The payloads of a session are built of its rows. -/
theorem forall₂_payloads {lookup : List LookupEntry} {ps : List Payload}
    (h : s.stage.IsFull) (built : s.payloads lookup = .ok ps) :
    List.Forall₂ (fun row p => Row.IsFull s.table.headers row ∧
      p = Payload.build s.mode (s.mapping.apply row) lookup) s.table.rows ps := by
  obtain ⟨d, hstage, rfl⟩ := payloads_eq_ok built
  have htable : s.table = d.table := by simp [table, draft?, hstage]
  have hmapping : s.mapping = d.mapping := by simp [mapping, draft?, hstage]
  rw [hstage] at h
  rw [htable, hmapping, Payload.ofRows, List.forall₂_map_right_iff, List.forall₂_same]
  exact fun row hrow => ⟨h row hrow, rfl⟩

end Session

/-! ## Blank rows -/

/-- A table that is read from delimited text has no blank row exactly if no record of the text
spills, and no table of a sheet has one.  So in a session whose files spill nothing, every payload
is built of a row with something in it. -/
theorem rows_full_iff_no_spill (bytes : List UInt8) (separator : Option UInt8) (w : Workbook)
    (sheet : Sheet) (t : Table) (mode : Mode) (actions : List Session.Action)
    (lookup : List LookupEntry) (ps : List Payload) :
    (Delimited.decode bytes separator = .ok t →
      (t.IsFull ↔ ¬ Delimited.HasSpill bytes separator)) ∧
    (w.readSheet sheet = .ok t → t.IsFull) ∧
    ((∀ a ∈ actions, a.SpillsNothing) →
      let s := (Session.new mode).after actions
      s.payloads lookup = .ok ps →
        List.Forall₂ (fun row p => Row.IsFull s.table.headers row ∧
          p = Payload.build s.mode (s.mapping.apply row) lookup) s.table.rows ps) := by
  refine ⟨Delimited.isFull_iff, Workbook.isFull_of_readSheet, ?_⟩
  intro hactions s built
  have hnew : (Session.new mode).stage.IsFull := trivial
  exact Session.forall₂_payloads (Session.isFull_after hnew hactions) built

/-- A blank record, a record that is too short, and one that is too long but has something within
the width of the table. -/
def Sample.unspilt : List UInt8 := Text.Utf8.bytes "name,code\n , ,\nA\n,B,C\n"

def Sample.unspiltTable : Table where
  headers := ["name", "code"]
  rows := [⟨[("name", "A"), ("code", "")]⟩, ⟨[("name", ""), ("code", "B")]⟩]

/-- A sheet of the same table. -/
def Sample.shortRows : Sheet :=
  ⟨"S", [[.text "name", .text "code"], [.nothing, .text " "], [.text "A"], [.text "", .text "B"]]⟩

theorem full_rows_submitted :
    Delimited.decode Sample.unspilt none = .ok Sample.unspiltTable ∧
      ¬ Delimited.HasSpill Sample.unspilt none ∧
      (Workbook.readSheet ⟨.xlsx, false, []⟩ Sample.shortRows = .ok Sample.unspiltTable ∧
        Sample.unspiltTable.IsFull) ∧
      ∃ ps, ((Session.new .properties).after
          [.selectFile "names.csv" (.bytes Sample.unspilt), .decode, .begin]).payloads [] = .ok ps ∧
        List.Forall₂ (fun row p => Row.IsFull ["name", "code"] row ∧
          p = Payload.build .properties
            (Mapping.apply [⟨"name", some "name"⟩, ⟨"code", some "code"⟩] row) [])
          Sample.unspiltTable.rows ps := by
  have hdecode : Delimited.decode Sample.unspilt none = .ok Sample.unspiltTable := by rfl
  have hsheet : Workbook.readSheet ⟨.xlsx, false, []⟩ Sample.shortRows =
      .ok Sample.unspiltTable := by rfl
  obtain ⟨hspill, hfull, hpayloads⟩ := rows_full_iff_no_spill Sample.unspilt none ⟨.xlsx, false, []⟩
    Sample.shortRows Sample.unspiltTable .properties
    [.selectFile "names.csv" (.bytes Sample.unspilt), .decode, .begin] [] _
  have hnone : ¬ Delimited.HasSpill Sample.unspilt none := (hspill hdecode).1 (by decide)
  have hactions : ∀ a ∈ [.selectFile "names.csv" (.bytes Sample.unspilt), .decode, .begin],
      Session.Action.SpillsNothing a := by
    simp only [List.forall_mem_cons, Session.Action.SpillsNothing, List.not_mem_nil,
      false_imp_iff, implies_true, and_true]
    intro format hformat
    obtain rfl : FileFormat.delimited false = format := Except.ok.inj hformat
    exact hnone
  exact ⟨hdecode, hnone, ⟨hsheet, hfull hsheet⟩, _, rfl, hpayloads hactions rfl⟩

/-- A record with nothing in it but behind the only column. -/
def Sample.spilt : List UInt8 := Text.Utf8.bytes "name\nA\n,x\n"

/-- It becomes a blank row, and a payload is built of this row. -/
theorem blank_row_submitted :
    Delimited.decode Sample.spilt none =
        .ok ⟨["name"], [⟨[("name", "A")]⟩, ⟨[("name", "")]⟩]⟩ ∧
      ¬ Table.IsFull ⟨["name"], [⟨[("name", "A")]⟩, ⟨[("name", "")]⟩]⟩ ∧
      (((Session.new .properties).after
          [.selectFile "names.csv" (.bytes Sample.spilt), .decode, .begin]).payloads []).map
            (·.map Payload.object) =
        .ok [[("name", .str "A")], [("name", .str "")]] := by
  refine ⟨by rfl, by decide, by rfl⟩

end SheetIntake
