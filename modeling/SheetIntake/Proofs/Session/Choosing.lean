import SheetIntake.Proofs.Session.Outcomes
import SheetIntake.Proofs.Upload.Agreement

/-! # The chosen sheet is imported

    A workbook with several sheets is read in two steps: its sheets are offered by their names,
    and the number of one of them leads to its name, and the name back to a sheet.  If no sheet in
    front has the same name, this is the sheet of that number (`Workbook.decodeSheet_eq`), and it
    is imported as if there were no other sheets (`SameImport`).

    Two things stand in the way.  A number leads to the first sheet with the name, so the later of
    two sheets of one name cannot be chosen.  And a workbook that is taken for protected because
    of what stands in one of its sheets is not read at all. -/

namespace SheetIntake

/-! ## One sheet of many -/

namespace Workbook

/-- The workbook with one of its sheets only. -/
def only (w : Workbook) (s : Sheet) : Workbook := { w with sheets := [s] }

variable {w : Workbook} {s : Sheet} {n : Nat}

/-- Reading a sheet takes no other sheet into account. -/
theorem readSheet_only : (w.only s).readSheet s = w.readSheet s := rfl

theorem looksProtected_only (hs : s ∈ w.sheets) (h : w.looksProtected = false) :
    (w.only s).looksProtected = false := by
  simp only [looksProtected, only, Bool.and_eq_false_iff] at h ⊢
  refine h.imp_right fun hnone => ?_
  rw [List.any_eq_false] at hnone
  simpa using hnone s hs

/-- The first sheet with a name is read under this name. -/
theorem readNamed_eq (hsheet : w.sheets[n]? = some s) (first : s.name ∉ w.names.take n) :
    w.readNamed s.name = w.readSheet s := by
  obtain ⟨hlt, rfl⟩ := List.getElem?_eq_some_iff.1 hsheet
  have hfind : (w.sheets.find? fun s' => s'.name == w.sheets[n].name) = some w.sheets[n] := by
    rw [List.find?_eq_some_iff_getElem]
    refine ⟨by simp, n, hlt, rfl, fun j hj => ?_⟩
    -- A sheet of the same name would be among the first.
    simp only [Bool.not_eq_true', beq_eq_false_iff_ne]
    intro hname
    exact first (hname ▸ List.mem_take_iff_getElem.2 ⟨j, by simp [names]; omega, by simp [names]⟩)
  rw [readNamed, hfind]

theorem getElem?_names (hsheet : w.sheets[n]? = some s) : w.names[n]? = some s.name := by
  simp [names, hsheet]

theorem decodeSheet_eq (hsheet : w.sheets[n]? = some s) (first : s.name ∉ w.names.take n) :
    w.decodeSheet (n + 1) = w.readSheet s := by
  simp only [decodeSheet, getElem?_names hsheet]
  exact readNamed_eq hsheet first

end Workbook

/-! ## Two ways to import a sheet -/

/-- A choice and another import come to the same: both review the same table under the same
mapping, or both have failed to read it and start over.  If reading breaks off, both stay what
they were. -/
inductive SameImport (mode : Mode) (sheetName : String) (before before' : Session) :
    Session × Except ImportError Status → Session × Except ImportError Status → Prop where
  | reviewed (d : Draft) (status : Status) :
    SameImport mode sheetName before before'
      (⟨mode, .review { d with sheetName := some sheetName }⟩, .ok status)
      (⟨mode, .review d⟩, .ok status)
  | failed (e : ImportError) (unreadable : e.isUnreadable = true) :
    SameImport mode sheetName before before' (Session.new mode, .error e)
      (Session.new mode, .error e)
  | brokeOff (detail : String) :
    SameImport mode sheetName before before' (before, .error (.overflow detail))
      (before', .error (.overflow detail))

theorem SameImport.table_eq {mode : Mode} {sheetName : String} {before before' : Session}
    {chosen alone : Session × Except ImportError Status}
    (h : SameImport mode sheetName before before' chosen alone) {status : Status}
    (hok : chosen.2 = .ok status) : chosen.1.table = alone.1.table := by
  cases h with
  | reviewed => rfl
  | failed | brokeOff => cases hok

namespace Session

/-- A new session to which a workbook has been attached. -/
def attached (mode : Mode) (fileName : String) (w : Workbook) : Session :=
  ((new mode).selectFile fileName (.workbook w)).1

/-- A session in which one of the sheets of a workbook has to be chosen. -/
def pending (mode : Mode) (fileName : String) (w : Workbook) : Session :=
  ⟨mode, .choosing fileName (.workbook w) w.names⟩

section
variable {mode : Mode} {fileName : String} {w : Workbook} {s : Sheet} {n : Nat}

theorem attached_eq (hformat : FileFormat.ofName fileName = .ok .workbook) :
    attached mode fileName w = ⟨mode, .selected fileName .workbook (.workbook w)⟩ := by
  simp only [attached, selectFile, new, hformat]

/-- A workbook that is taken for protected is not read. -/
theorem decode_protected (hformat : FileFormat.ofName fileName = .ok .workbook)
    (h : w.looksProtected = true) :
    (attached mode fileName w).decode = (new mode, .error .passwordProtected) := by
  simp only [attached_eq hformat, decode, Content.read, Content.decodeWorkbook_protected h]
  rfl

/-- With several sheets the import stops and offers them. -/
theorem decode_several (hformat : FileFormat.ofName fileName = .ok .workbook)
    (several : 2 ≤ w.sheets.length) (h : w.looksProtected = false) :
    (attached mode fileName w).decode = (pending mode fileName w, .ok .multiSheetPending) := by
  have hchoice : (Content.workbook w).decodeWorkbook = .ok (.choice w.names) := by
    have hlength : w.names.length = w.sheets.length := List.length_map ..
    match hnames : w.names with
    | [] | [_] => simp [hnames] at hlength; omega
    | first :: second :: rest =>
      simp only [Content.decodeWorkbook, Content.openWorkbook_workbook h, bind, Except.bind, hnames]
      rfl
  simp only [attached_eq hformat, decode, Content.read, hchoice]
  rfl

/-- What comes of a session that has tried to read a sheet. -/
def onRead (before : Session) (fileName : String) (sheetName : Option String) :
    Except ImportError Table → Session × Except ImportError Status
  | .ok t =>
    let next := before.reviewing fileName sheetName t
    (next, .ok next.status)
  | .error (.overflow detail) => (before, .error (.overflow detail))
  | .error e => (before.cleared, .error e)

/-- With one sheet the import goes on at once. -/
theorem decode_only (hformat : FileFormat.ofName fileName = .ok .workbook)
    (h : (w.only s).looksProtected = false) :
    (attached mode fileName (w.only s)).decode =
      (attached mode fileName (w.only s)).onRead fileName
        ((some s.name).filter fun name => !name.isEmpty) (w.readSheet s) := by
  have hsingle := Content.decodeWorkbook_single (w := w.only s) rfl h
  rw [Workbook.readSheet_only] at hsingle
  simp only [attached_eq hformat, decode, Content.read, hsingle]
  cases w.readSheet s with
  | ok t => rfl
  | error e => cases e <;> rfl

theorem chooseSheet_pending (hsheet : w.sheets[n]? = some s) (first : s.name ∉ w.names.take n)
    (h : w.looksProtected = false) :
    (pending mode fileName w).chooseSheet (n + 1) =
      (pending mode fileName w).onRead fileName (some s.name) (w.readSheet s) := by
  have hread : (Content.workbook w).decodeSheet (n + 1) = w.readSheet s := by
    simp only [Content.decodeSheet, Content.openWorkbook_workbook h, bind, Except.bind,
      Workbook.decodeSheet_eq hsheet first]
  have hname := Workbook.getElem?_names hsheet
  simp only [pending, chooseSheet, hread]
  cases hsheet : w.readSheet s with
  | ok t => simp only [Nat.add_sub_cancel, hname]; rfl
  | error e =>
    have herror := Workbook.readSheet_error hsheet
    cases e with
    | sheetOutOfRange index count => simp [ImportError.isUnreadable] at herror
    | _ => rfl

/-- From what has been read both go on alike. -/
theorem sameImport_onRead (mode : Mode) (name : String) {before before' : Session}
    (hmode : before.mode = mode) (hmode' : before'.mode = mode) (fileName : String)
    (sheetName : Option String) {r : Except ImportError Table}
    (hr : ∀ e, r = .error e → e.isUnreadable = true ∨ ∃ detail, e = .overflow detail) :
    SameImport mode name before before' (before.onRead fileName (some name) r)
      (before'.onRead fileName sheetName r) := by
  obtain ⟨_, stage⟩ := before
  obtain ⟨_, stage'⟩ := before'
  subst hmode hmode'
  cases r with
  | ok t => exact .reviewed ⟨fileName, sheetName, t, _, _⟩ _
  | error e =>
    rcases hr e rfl with hunreadable | ⟨detail, rfl⟩
    · cases e with
      | overflow detail => cases hunreadable
      | _ => exact .failed _ hunreadable
    · exact .brokeOff detail

/-- A sheet that is chosen by its number and is the first one of its name is imported like the only
sheet of a workbook, unless the workbook is taken for protected. -/
theorem chosen_sheet_imported_iff (hformat : FileFormat.ofName fileName = .ok .workbook)
    (several : 2 ≤ w.sheets.length) (hsheet : w.sheets[n]? = some s)
    (first : s.name ∉ w.names.take n) :
    ((attached mode fileName w).decode = (pending mode fileName w, .ok .multiSheetPending) ∧
      SameImport mode s.name (pending mode fileName w) (attached mode fileName (w.only s))
        ((pending mode fileName w).chooseSheet (n + 1))
        (attached mode fileName (w.only s)).decode) ↔
      w.looksProtected = false := by
  constructor
  · rintro ⟨hdecode, -⟩
    by_contra hprotected
    rw [decode_protected hformat (by simpa using hprotected)] at hdecode
    cases hdecode
  · intro h
    have honly := Workbook.looksProtected_only (List.mem_of_getElem? hsheet) h
    refine ⟨decode_several hformat several h, ?_⟩
    rw [chooseSheet_pending hsheet first h, decode_only hformat honly]
    exact sameImport_onRead mode s.name rfl (by rw [attached_eq hformat]) fileName _
      fun e he => Workbook.readSheet_error he

end

/-- Three sheets, of which the last cannot be read and has the name of the first. -/
def Sample.threeSheets : Workbook where
  format := .xlsx
  from1904 := false
  sheets := [
    Sheet.ofTexts "S" [["name"], ["A"]],
    Sheet.ofTexts "T" [["", " "], ["name", "name"], ["B", "C"]],
    ⟨"S", [[.error "#BAD!"]]⟩]

theorem second_sheet_imported :
    (attached .properties "book.xlsx" Sample.threeSheets).decode =
        (pending .properties "book.xlsx" Sample.threeSheets, .ok .multiSheetPending) ∧
      (pending .properties "book.xlsx" Sample.threeSheets).sheetNames = ["S", "T", "S"] ∧
      SameImport .properties "T" (pending .properties "book.xlsx" Sample.threeSheets)
        (attached .properties "book.xlsx" (Sample.threeSheets.only Sample.threeSheets.sheets[1]))
        ((pending .properties "book.xlsx" Sample.threeSheets).chooseSheet 2)
        (attached .properties "book.xlsx"
          (Sample.threeSheets.only Sample.threeSheets.sheets[1])).decode ∧
      ((pending .properties "book.xlsx" Sample.threeSheets).chooseSheet 2).1.table =
        ⟨["name", "name_1"], [⟨[("name", "B"), ("name_1", "C")]⟩]⟩ := by
  have hformat : FileFormat.ofName "book.xlsx" = .ok .workbook := by rfl
  obtain ⟨hdecode, hsame⟩ := (@chosen_sheet_imported_iff .properties _ Sample.threeSheets _ 1
    hformat (by decide) rfl (by decide)).2 rfl
  exact ⟨hdecode, rfl, hsame, by rfl⟩

/-- Two sheets of the same name. -/
def Sample.twins : Workbook where
  format := .xlsx
  from1904 := false
  sheets := [Sheet.ofTexts "S" [["name"], ["A"]], Sheet.ofTexts "S" [["name"], ["B"]]]

/-- Two sheets of the oldest format, the first one with the name of the protected part. -/
def Sample.suspect : Workbook where
  format := .xls
  from1904 := false
  sheets := [Sheet.ofTexts "S" [["EncryptedPackage"], ["x"]], Sheet.ofTexts "T" [["name"], ["A"]]]

/-- Choosing the second of two sheets of one name imports the first, and what stands in the first
sheet can keep the second from being offered. -/
theorem other_sheet_imported :
    (Sample.twins.sheets[1]? = some (Sheet.ofTexts "S" [["name"], ["B"]]) ∧
      (attached .properties "book.xlsx" Sample.twins).decode =
        (pending .properties "book.xlsx" Sample.twins, .ok .multiSheetPending) ∧
      ((pending .properties "book.xlsx" Sample.twins).chooseSheet 2).1.table =
        ⟨["name"], [⟨[("name", "A")]⟩]⟩ ∧
      ¬ SameImport .properties "S" (pending .properties "book.xlsx" Sample.twins)
        (attached .properties "book.xlsx" (Sample.twins.only Sample.twins.sheets[1]))
        ((pending .properties "book.xlsx" Sample.twins).chooseSheet 2)
        (attached .properties "book.xlsx" (Sample.twins.only Sample.twins.sheets[1])).decode) ∧
    (attached .properties "book.xls" Sample.suspect).decode =
      (new .properties, .error .passwordProtected) := by
  have hchosen : ((pending .properties "book.xlsx" Sample.twins).chooseSheet 2).1.table =
      ⟨["name"], [⟨[("name", "A")]⟩]⟩ := by rfl
  have halone : (attached .properties "book.xlsx"
      (Sample.twins.only Sample.twins.sheets[1])).decode.1.table =
        ⟨["name"], [⟨[("name", "B")]⟩]⟩ := by rfl
  refine ⟨⟨rfl, by rfl, hchosen, fun hsame => ?_⟩, decode_protected (by rfl) (by decide)⟩
  have hok : ((pending .properties "book.xlsx" Sample.twins).chooseSheet 2).2 = .ok .validated := by
    rfl
  have htable := hsame.table_eq hok
  rw [hchosen, halone] at htable
  revert htable
  decide

end Session

end SheetIntake
