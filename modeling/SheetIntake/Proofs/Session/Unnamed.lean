import SheetIntake.Proofs.Mapping.Unnamed
import SheetIntake.Proofs.Session.Failure
import SheetIntake.Proofs.Table.Contents

/-! # Columns without a name

    In a file a header cell may be blank.  Its column is named by its number then, and such a name
    matches no field, so the column is skipped when the file is read.  From there on the user alone
    can change this: what is proposed is the only mapping that an action makes by itself, and no
    edit of another column sends this one to a field (`Session.skips_perform`).  So in every run the
    column is skipped until an edit that maps it is accepted (`Session.skips_after`), and as long as
    it is, the payloads do not depend on what stands in it (`Mapping.Skips.ofRows_eq`).

    Only whether a record is blank is decided on all its cells, the unnamed ones included. -/

namespace SheetIntake

/-! ## Cells of a skipped column -/

/-- Two rows have the same text in all columns but one. -/
def Row.AgreeOff (header : String) (row₁ row₂ : Row) : Prop :=
  ∀ other, other ≠ header → row₁.getText other = row₂.getText other

namespace Mapping

variable {m : Mapping} {header : String}

theorem Skips.apply_eq {row₁ row₂ : Row} (h : m.Skips header)
    (agree : Row.AgreeOff header row₁ row₂) : m.apply row₁ = m.apply row₂ := by
  unfold Mapping.apply
  congr 1
  refine List.filterMap_congr fun c hc => ?_
  by_cases hheader : c.header = header
  · rw [h c hc hheader]
    rfl
  · rw [agree c.header hheader]

/-- Payloads do not depend on a column that is skipped. -/
theorem Skips.ofRows_eq {rows₁ rows₂ : List Row} (h : m.Skips header)
    (agree : List.Forall₂ (Row.AgreeOff header) rows₁ rows₂) (mode : Mode)
    (table : List LookupEntry) :
    Payload.ofRows mode rows₁ m table = Payload.ofRows mode rows₂ m table := by
  induction agree with
  | nil => rfl
  | cons hrow _ ih =>
    unfold Payload.ofRows at ih ⊢
    rw [List.map_cons, List.map_cons, h.apply_eq hrow, ih]

end Mapping

/-! ## Files and their records -/

/-- A workbook that is read at once has one sheet. -/
theorem Content.decodeWorkbook_table {c : Content} {name : Option String} {t : Table}
    (h : c.decodeWorkbook = .ok (.table name t)) :
    ∃ w s, c.openWorkbook = .ok w ∧ w.sheets = [s] ∧ w.readSheet s = .ok t := by
  obtain ⟨w, hopen, hread⟩ := bind_eq_ok.1 h
  match hsheets : w.sheets with
  | [] => simp [Workbook.names, hsheets] at hread
  | [s] =>
    have hnamed : w.readNamed s.name = w.readSheet s := by simp [Workbook.readNamed, hsheets]
    simp only [Workbook.names, hsheets, List.map_cons, List.map_nil, hnamed] at hread
    obtain ⟨t', hsheet, ht⟩ := bind_eq_ok.1 hread
    obtain ⟨-, rfl⟩ := Decoded.table.inj (Except.ok.inj ht)
    exact ⟨w, s, hopen, hsheets, hsheet⟩
  | first :: second :: rest =>
    simp only [Workbook.names, hsheets, List.map_cons] at hread
    cases hread

namespace Session

variable {s s' : Session} {a : Action} {d : Draft} {header : String}

/-- The records that an action reads off the file of the session. -/
inductive Reads (s : Session) : Action → List (List String) → Prop where
  | text {fileName : String} {tabSeparated : Bool} {content : Content}
      {records : List (List String)}
      (selected : s.stage = .selected fileName (.delimited tabSeparated) content)
      (read : Delimited.recordsOf content.textBytes (if tabSeparated then some 0x09 else none) =
        .ok records) : Reads s .decode records
  /-- A workbook with one sheet is read at once. -/
  | only {fileName : String} {content : Content} {w : Workbook} {sheet : Sheet}
      {rows : List (List Cell)} (selected : s.stage = .selected fileName .workbook content)
      (opened : content.openWorkbook = .ok w) (alone : w.sheets = [sheet])
      (cells : sheet.cells w.format w.from1904 = .ok rows) :
      Reads s .decode (Sheet.records rows)
  /-- The number of a sheet leads to the first one of its name. -/
  | chosen {fileName name : String} {content : Content} {names : List String} {w : Workbook}
      {sheet : Sheet} {n : ℕ} {rows : List (List Cell)}
      (choosing : s.stage = .choosing fileName content names)
      (opened : content.openWorkbook = .ok w) (numbered : w.names[n]? = some name)
      (first : (w.sheets.find? fun s => s.name == name) = some sheet)
      (cells : sheet.cells w.format w.from1904 = .ok rows) :
      Reads s (.chooseSheet (n + 1)) (Sheet.records rows)

theorem reads_of_read {fileName : String} {format : FileFormat} {content : Content}
    {sheetName : Option String} {t : Table}
    (selected : s.stage = .selected fileName format content)
    (h : content.read format = .ok (.table sheetName t)) :
    ∃ records, s.Reads .decode records ∧ Table.ofRecords? records = some t := by
  cases format with
  | delimited tabSeparated =>
    obtain ⟨t', hdecode, ht⟩ := bind_eq_ok.1 h
    obtain ⟨-, rfl⟩ := Decoded.table.inj (Except.ok.inj ht)
    obtain ⟨records, hrecords, htable⟩ := Delimited.decode_eq_ok.1 hdecode
    exact ⟨records, .text selected hrecords, htable⟩
  | workbook =>
    obtain ⟨decoded, hdecode, ht⟩ := bind_eq_ok.1 h
    cases decoded with
    | choice names => cases ht
    | table name t' =>
      obtain ⟨-, rfl⟩ := Decoded.table.inj (Except.ok.inj ht)
      obtain ⟨w, sheet, hopen, halone, hsheet⟩ := Content.decodeWorkbook_table hdecode
      obtain ⟨rows, hcells, -, htable⟩ := Workbook.readSheet_eq_ok.1 hsheet
      exact ⟨_, .only selected hopen halone hcells, htable⟩

theorem reads_of_decodeSheet {fileName : String} {content : Content} {names : List String}
    {number : ℕ} {t : Table} (choosing : s.stage = .choosing fileName content names)
    (h : content.decodeSheet number = .ok t) :
    ∃ records, s.Reads (.chooseSheet number) records ∧ Table.ofRecords? records = some t := by
  obtain ⟨w, hopen, hread⟩ := bind_eq_ok.1 h
  cases number with
  | zero => cases hread
  | succ n =>
    simp only [Workbook.decodeSheet] at hread
    split at hread
    · rename_i name hnumbered
      unfold Workbook.readNamed at hread
      split at hread
      · rename_i sheet hfirst
        obtain ⟨rows, hcells, -, htable⟩ := Workbook.readSheet_eq_ok.1 hread
        exact ⟨_, .chosen choosing hopen hnumbered hfirst hcells, htable⟩
      · cases hread
    · cases hread

/-- What comes of an action that reads: the table of the records is reviewed as proposed, there is
nothing to review, or the action is refused. -/
inductive AfterReading (s : Session) (a : Action) : Session → Except ImportError Answer → Prop where
  | reviewed {records : List (List String)} {fileName : String} {sheetName : Option String}
      {t : Table} {answer : Except ImportError Answer} (reads : s.Reads a records)
      (made : Table.ofRecords? records = some t) :
      AfterReading s a (s.reviewing fileName sheetName t) answer
  | nothing {s' : Session} {answer : Except ImportError Answer} (none : s'.draft? = none) :
      AfterReading s a s' answer
  | refused {e : ImportError} : AfterReading s a s (.error e)

theorem afterReading_perform (s : Session) {a : Action} (reads : a.reads = true) :
    s.AfterReading a (s.perform a).1 (s.perform a).2 := by
  match a, reads with
  | .decode, _ =>
    simp only [perform, decode]
    split
    · rename_i hselected
      split
      · exact .nothing rfl
      · rename_i hread
        obtain ⟨records, hreads, hmade⟩ := reads_of_read hselected hread
        exact .reviewed hreads hmade
      · exact .refused
      · exact .nothing rfl
    · exact .refused
  | .chooseSheet number, _ =>
    simp only [perform, chooseSheet]
    split
    · rename_i hchoosing
      split
      · rename_i hread
        obtain ⟨records, hreads, hmade⟩ := reads_of_decodeSheet hchoosing hread
        exact .reviewed hreads hmade
      · exact .refused
      · exact .refused
      · exact .nothing rfl
    · exact .refused

/-- What is under review after reading is the table of the records that have been read. -/
theorem AfterReading.exists_reads {answer : Answer} (h : s.AfterReading a s' (.ok answer))
    (review : s'.stage = .review d) :
    ∃ records, s.Reads a records ∧ Table.ofRecords? records = some d.table ∧
      d.mapping = Mapping.propose s.mode.fields d.table.headers := by
  cases h with
  | reviewed reads made =>
    obtain rfl := SessionStage.review.inj review
    exact ⟨_, reads, made, rfl⟩
  | nothing none => simp [draft?, review] at none

/-! ## Mapping a column -/

/-- The entries that an action asks for in the mapping. -/
def Action.entries : Action → Mapping
  | .assign header target => [⟨header, target⟩]
  | .replaceMapping mapping => mapping
  | _ => []

/-- The action asks to send the column to a field. -/
def Action.Maps (header : String) (a : Action) : Prop :=
  ∃ c ∈ a.entries, c.header = header ∧ (Mapping.trimmedEntry c).target ≠ none

theorem Action.target_eq_none (h : ¬ a.Maps header) :
    ∀ c ∈ a.entries, c.header = header → (Mapping.trimmedEntry c).target = none := by
  intro c hc hheader
  by_contra htarget
  exact h ⟨c, hc, hheader, htarget⟩

theorem skips_of_draft?_eq_none (h : s.draft? = none) : s.mapping.Skips header := by
  rw [mapping, h]
  exact Mapping.skips_nil header

theorem skips_reading (unmatched : Header.match? s.mode.fields header = none)
    (h : s.mapping.Skips header) (reads : a.reads = true) :
    (s.perform a).1.mapping.Skips header := by
  have hafter := afterReading_perform s reads
  generalize (s.perform a).1 = s', (s.perform a).2 = answer at hafter
  cases hafter with
  | reviewed => exact Mapping.skips_propose unmatched
  | nothing none => exact skips_of_draft?_eq_none none
  | refused => exact h

theorem skips_edit {change : Draft → Except ImportError Mapping} (h : s.mapping.Skips header)
    (kept : ∀ d m, d.mapping.Skips header → change d = .ok m → m.Skips header) :
    (s.edit change).1.mapping.Skips header := by
  unfold edit
  split
  · rename_i d hreview
    split
    · rename_i m hchange
      have hmapping : s.mapping = d.mapping := by simp [mapping, draft?, hreview]
      exact kept d m (hmapping ▸ h) hchange
    · exact h
  · exact h

/-- Whether an action edits the mapping. -/
def Action.edits : Action → Bool
  | .assign .. | .replaceMapping _ => true
  | _ => false

/-- An action that neither reads nor edits leaves the draft as it is, or takes it away. -/
theorem draft?_perform (s : Session) {a : Action} (unread : a.reads = false)
    (unedited : a.edits = false) :
    (s.perform a).1.draft? = s.draft? ∨ (s.perform a).1.draft? = none := by
  match a, unread, unedited with
  | .selectFile name content, _, _ =>
    simp only [perform, selectFile]
    split
    · split
      · exact .inr rfl
      · exact .inl rfl
    · exact .inl rfl
  | .begin, _, _ =>
    simp only [perform, Session.begin]
    split
    · rename_i d hreview
      split
      · exact .inl (by simp [draft?, hreview])
      · exact .inl rfl
    · exact .inl rfl
  | .payloads lookup, _, _ => exact .inl rfl
  | .abort, _, _ =>
    left
    show s.abort.1.draft? = s.draft?
    obtain ⟨d, hsubmitting, habort⟩ | ⟨-, habort⟩ := abort_cases s
    · simp [habort, draft?, hsubmitting]
    · rw [habort]
  | .complete summary, _, _ =>
    left
    show (s.complete summary).1.draft? = s.draft?
    obtain ⟨d, hsubmitting, hcomplete⟩ | ⟨-, hcomplete⟩ := complete_cases s summary
    · simp [hcomplete, draft?, hsubmitting]
    · rw [hcomplete]
  | .cancel, _, _ =>
    simp only [perform, cancel]
    split
    · exact .inl rfl
    · exact .inl rfl
    · exact .inr rfl
  | .reset, _, _ =>
    simp only [perform, reset]
    split
    · exact .inr rfl
    · exact .inr rfl
    · exact .inl rfl

theorem skips_quiet (h : s.mapping.Skips header) (unread : a.reads = false)
    (unedited : a.edits = false) : (s.perform a).1.mapping.Skips header := by
  rcases draft?_perform s unread unedited with hkept | hnone
  · rwa [mapping, hkept]
  · exact skips_of_draft?_eq_none hnone

theorem skips_of_not_maps (unmatched : Header.match? s.mode.fields header = none)
    (h : s.mapping.Skips header) (unmapped : ¬ a.Maps header) :
    (s.perform a).1.mapping.Skips header := by
  have hentries := Action.target_eq_none unmapped
  match a with
  | .decode | .chooseSheet _ => exact skips_reading unmatched h rfl
  | .assign column target =>
    have hcolumn := hentries _ (List.mem_singleton_self _)
    exact skips_edit h fun d m hskips hm => hskips.assign hm hcolumn
  | .replaceMapping list => exact skips_edit h fun d m _ hm => Mapping.skips_replace hm hentries
  | .selectFile .. | .begin | .payloads _ | .abort | .complete _ | .cancel | .reset =>
    exact skips_quiet h rfl rfl

/-- No action sends a column with an unmatched name to a field, unless it maps this column and is
accepted. -/
theorem skips_perform (unmatched : Header.match? s.mode.fields header = none)
    (h : s.mapping.Skips header)
    (unmapped : ∀ answer, a.Maps header → (s.perform a).2 ≠ .ok answer) :
    (s.perform a).1.mapping.Skips header := by
  cases hanswer : (s.perform a).2 with
  | error e =>
    rw [perform_of_error hanswer]
    split
    · exact skips_of_draft?_eq_none rfl
    · exact h
  | ok answer => exact skips_of_not_maps unmatched h fun hmaps => unmapped answer hmaps hanswer

/-- In the run, some edit that sends the column to a field is accepted. -/
def IsMapped (header : String) (s : Session) (later : List Action) : Prop :=
  ∃ before a behind answer, later = before ++ a :: behind ∧ a.Maps header ∧
    ((s.after before).perform a).2 = .ok answer

theorem not_isMapped_cons {later : List Action} (h : ¬ s.IsMapped header (a :: later)) :
    (∀ answer, a.Maps header → (s.perform a).2 ≠ .ok answer) ∧
      ¬ (s.perform a).1.IsMapped header later := by
  constructor
  · intro answer hmaps hanswer
    exact h ⟨[], a, later, answer, rfl, hmaps, hanswer⟩
  · rintro ⟨before, b, behind, answer, rfl, hmaps, hanswer⟩
    exact h ⟨a :: before, b, behind, answer, rfl, hmaps, hanswer⟩

theorem skips_after {later : List Action} (unmatched : Header.match? s.mode.fields header = none)
    (h : s.mapping.Skips header) (unmapped : ¬ s.IsMapped header later) :
    (s.after later).mapping.Skips header := by
  induction later generalizing s with
  | nil => exact h
  | cons a later ih =>
    obtain ⟨ha, hlater⟩ := not_isMapped_cons unmapped
    have hmode : (s.perform a).1.mode = s.mode := (transition_perform s a).mode
    exact ih (hmode ▸ unmatched) (skips_perform unmatched h ha) hlater

/-! ## The whole import -/

/-- From the session on, the column stays out of the import until it is mapped. -/
structure StaysOut (header : String) (s : Session) : Prop where
  /-- It goes to no field. -/
  skipped : ∀ later, ¬ s.IsMapped header later → (s.after later).mapping.Skips header
  /-- Whatever else stood in it, the payloads would be the same. -/
  withheld : ∀ later, ¬ s.IsMapped header later → ∀ (lookup : List LookupEntry)
    (ps : List Payload) (rows : List Row), (s.after later).payloads lookup = .ok ps →
    List.Forall₂ (Row.AgreeOff header) (s.after later).table.rows rows →
      Payload.ofRows (s.after later).mode rows (s.after later).mapping lookup = ps

theorem staysOut (unmatched : Header.match? s.mode.fields header = none)
    (h : s.mapping.Skips header) : s.StaysOut header := by
  constructor
  case skipped => exact fun later => skips_after unmatched h
  case withheld =>
    intro later unmapped lookup ps rows built agree
    have hskips := skips_after unmatched h unmapped
    obtain ⟨d, hsubmitting, rfl⟩ := payloads_eq_ok built
    have htable : (s.after later).table = d.table := by simp [table, draft?, hsubmitting]
    have hmapping : (s.after later).mapping = d.mapping := by simp [mapping, draft?, hsubmitting]
    rw [hmapping] at hskips ⊢
    rw [htable] at agree
    exact (hskips.ofRows_eq agree _ lookup).symm

end Session

/-- What becomes of columns with blank headers. -/
structure UnnamedStayOut (mode : Mode) : Prop where
  /-- The names that they are given match no field. -/
  unmatched : ∀ n k : ℕ, Header.match? mode.fields s!"Column {n}" = none ∧
    Header.match? mode.fields s!"Column {n}_{k}" = none
  /-- Whatever file is read, under a blank cell of its header there is a column of such a name.  It
  is skipped, and stays out of the import until it is mapped. -/
  imported : ∀ (s : Session) (a : Session.Action) (answer : Session.Answer) (d : Draft),
    s.mode = mode → a.reads = true → (s.perform a).2 = .ok answer →
    (s.perform a).1.stage = .review d →
    ∃ records first, s.Reads a records ∧ Table.ofRecords? records = some d.table ∧
      records.find? (fun r => !isBlankRecord r) = some first ∧
      ∀ (i : ℕ) (cell : String), first[i]? = some cell → Text.isBlank cell = true →
        ∃ header, d.table.headers[i]? = some header ∧
          (header = s!"Column {i + 1}" ∨ ∃ k ≥ 1, header = s!"Column {i + 1}_{k}") ∧
          d.mapping[i]? = some ⟨header, none⟩ ∧ (s.perform a).1.StaysOut header

/-- In every mode, columns with blank headers stay out of every import, unless they are mapped. -/
theorem unnamed_columns_stay_out (mode : Mode) : UnnamedStayOut mode := by
  constructor
  case unmatched =>
    intro n k
    have hnumbered := Header.isNumbered_column n
    exact ⟨hnumbered.match?_eq mode, (hnumbered.suffix k).match?_eq mode⟩
  case imported =>
    rintro s a answer d rfl reads hanswer hreview
    have hafter := Session.afterReading_perform s reads
    rw [hanswer] at hafter
    obtain ⟨records, hreads, hmade, hmapping⟩ := hafter.exists_reads hreview
    obtain ⟨first, hfirst, hheaders⟩ := Table.headers_of_ofRecords? hmade
    refine ⟨records, first, hreads, hmade, hfirst, fun i cell hcell blank => ?_⟩
    obtain ⟨header, hheader, hname⟩ := Naming.exists_number_of_blank hcell blank
    rw [← hheaders] at hheader
    have hnumbered : Header.IsNumbered header := by
      rcases hname with rfl | ⟨k, -, rfl⟩
      · exact Header.isNumbered_column (i + 1)
      · exact (Header.isNumbered_column (i + 1)).suffix k
    have hunmatched := hnumbered.match?_eq s.mode
    have hskips : d.mapping.Skips header := by
      rw [hmapping]
      exact Mapping.skips_propose hunmatched
    have hcolumns : d.mapping.headers = d.table.headers := by
      rw [hmapping]
      exact Mapping.headers_proposeFrom ..
    refine ⟨header, hheader, hname, hskips.getElem?_eq hcolumns hheader, ?_⟩
    have hmode : (s.perform a).1.mode = s.mode := (Session.transition_perform s a).mode
    refine Session.staysOut (hmode ▸ hunmatched) ?_
    rwa [Session.mapping, Session.draft?, hreview]

/-- The second header cell is blank, and the first one asks for the name of its column. -/
def Sample.unnamed : List UInt8 := Text.Utf8.bytes "Column 2,,name\na,b,A\n"

def Sample.unnamedRecords : List (List String) := [["Column 2", "", "name"], ["a", "b", "A"]]

def Sample.unnamedSelected : Session :=
  ⟨.properties, .selected "names.csv" (.delimited false) (.bytes Sample.unnamed)⟩

def Sample.unnamedMapping : Mapping :=
  [⟨"Column 2", none⟩, ⟨"Column 2_1", none⟩, ⟨"name", some "name"⟩]

/-- The second column is skipped and its cell is in no payload, until it is mapped. -/
theorem second_column_stays_out :
    let reviewed := (Sample.unnamedSelected.perform .decode).1
    reviewed.mapping = Sample.unnamedMapping ∧ reviewed.StaysOut "Column 2_1" ∧
      ((reviewed.after [.begin]).payloads []).map (·.map Payload.object) =
        .ok [[("name", .str "A")]] ∧
      ((reviewed.after [.assign "Column 2_1" (some " code "), .begin]).payloads []).map
          (·.map Payload.object) =
        .ok [[("name", .str "A"), ("code", .str "b")]] := by
  intro reviewed
  obtain ⟨records, first, hreads, -, hfirst, hcells⟩ :=
    (unnamed_columns_stay_out .properties).imported Sample.unnamedSelected .decode
      (.status .validated) _ rfl rfl (by rfl) (by rfl)
  obtain rfl : records = Sample.unnamedRecords := by
    cases hreads with
    | text selected read =>
      cases selected
      have hrecords : Delimited.recordsOf Sample.unnamed none = .ok Sample.unnamedRecords := by rfl
      exact Except.ok.inj (read.symm.trans hrecords)
    | only selected => cases selected
  obtain rfl : ["Column 2", "", "name"] = first := Option.some.inj hfirst
  obtain ⟨header, hheader, -, -, hstays⟩ := hcells 1 "" rfl rfl
  obtain rfl : "Column 2_1" = header := Option.some.inj hheader
  exact ⟨by rfl, hstays, by rfl, by rfl⟩

end SheetIntake
