import SheetIntake.Proofs.Mapping.Keys
import SheetIntake.Proofs.Payload.Registry
import SheetIntake.Session

/-! # From a clean file to its payloads

    A file is clean for a mode when its columns are named after distinct fields, all required ones
    among them, and every row has as many cells as there are columns, one of them not blank
    (`IsCleanFile`).  Written with any separator, such a file goes through all stages of an import
    without an edit, and every row becomes the payload that shows it (`clean_file_round_trip`). -/

namespace SheetIntake

/-- Columns that are named after fields of a mode, and rows for them. -/
structure IsCleanFile (mode : Mode) (keys : List String) (rows : List (List String)) : Prop where
  known : ∀ key ∈ keys, key ∈ mode.fields.map TargetField.key
  distinct : keys.Nodup
  required : ∀ f ∈ mode.fields, f.required = true → f.key ∈ keys
  rows_ne_nil : rows ≠ []
  shaped : ∀ r ∈ rows, r.length = keys.length ∧ ∃ cell ∈ r, Text.isBlank cell = false

variable {mode : Mode} {keys : List String} {rows : List (List String)} {separator : Char}

namespace IsCleanFile

/-- There is a required field in every mode, and so there is a column. -/
theorem keys_ne_nil (h : IsCleanFile mode keys rows) : keys ≠ [] := by
  obtain ⟨f, hf, hrequired⟩ : ∃ f ∈ mode.fields, f.required = true := by
    cases mode <;> simp [Mode.fields, propertyFields, unitFields, leaseFields]
  exact List.ne_nil_of_mem (h.required f hf hrequired)

/-- The bytes of a clean file, every cell quoted. -/
def bytes (separator : Char) (keys : List String) (rows : List (List String)) : List UInt8 :=
  (Delimited.WrittenFile.quoted (keys :: rows)).bytes separator

/-- The table of a clean file. -/
def table (keys : List String) (rows : List (List String)) : Table where
  headers := keys
  rows := rows.map fun cells => ⟨keys.zip cells⟩

/-- What is submitted of a clean file. -/
def draft (name : String) (keys : List String) (rows : List (List String)) : Draft where
  fileName := name
  sheetName := none
  table := table keys rows
  mapping := Mapping.named keys
  problems := []

theorem read_eq (h : IsCleanFile mode keys rows) (hs : separator ∈ Delimited.candidates) :
    (Content.bytes (bytes separator keys rows)).read (.delimited false) =
      .ok (.table none (table keys rows)) := by
  have hplain : ∀ key ∈ keys, Delimited.IsPlainHeader key := fun key hkey =>
    Mode.isPlainHeader_key (h.known key hkey)
  have hclean : ∀ key ∈ keys, Text.Clean key := fun key hkey => Mode.clean_key (h.known key hkey)
  have hdecode : Delimited.decode (bytes separator keys rows) none = .ok (table keys rows) :=
    Delimited.decode_guessed hs h.keys_ne_nil hplain hclean h.distinct h.rows_ne_nil h.shaped
  show (Delimited.decode (bytes separator keys rows) none >>= _) = _
  rw [hdecode]
  rfl

/-- No required field is left out. -/
theorem problems_eq (h : IsCleanFile mode keys rows) :
    Mapping.problems mode.fields (Mapping.named keys) = [] := by
  rw [Mapping.problems_eq_nil_iff, Mapping.targets_named]
  exact h.required

/-- The file is reviewed under the mapping of every column to its field, with nothing missing. -/
theorem reviewing_eq (h : IsCleanFile mode keys rows) {s : Session} (hmode : s.mode = mode)
    (name : String) :
    s.reviewing name none (table keys rows) = ⟨mode, .review (draft name keys rows)⟩ := by
  subst hmode
  have hmapping : Mapping.propose s.mode.fields (table keys rows).headers = Mapping.named keys :=
    Mapping.propose_keys h.known h.distinct
  simp only [Session.reviewing, hmapping, h.problems_eq]
  rfl

/-- The payloads show the rows, one for each and in their order. -/
theorem shows_ofRows (h : IsCleanFile mode keys rows) (lookup : List LookupEntry) :
    List.Forall₂ (Payload.Shows mode keys lookup) rows
      (Payload.ofRows mode (table keys rows).rows (Mapping.named keys) lookup) := by
  rw [Payload.ofRows, table, List.map_map, List.forall₂_map_right_iff, List.forall₂_same]
  intro cells hcells
  show Payload.Shows mode keys lookup cells (Payload.build mode ((Mapping.named keys).apply _) _)
  rw [Mapping.apply_named h.distinct (h.shaped cells hcells).1]
  exact Payload.shows_build mode h.distinct lookup cells

end IsCleanFile

namespace Session

/-- A clean file is selected, read, found valid without an edit and submitted, and its payloads
show its rows. -/
theorem clean_file_round_trip (h : IsCleanFile mode keys rows)
    (hs : separator ∈ Delimited.candidates) {name : String}
    (hname : FileFormat.extension name = "csv") :
    ∃ selected reviewed submitting : Session,
      (new mode).selectFile name
          (.bytes ((Delimited.WrittenFile.quoted (keys :: rows)).bytes separator)) =
        (selected, .ok ()) ∧
      selected.decode = (reviewed, .ok .validated) ∧
      reviewed.status = .validated ∧ reviewed.problems = [] ∧
      reviewed.mapping = (keys.map fun key => ⟨key, some key⟩) ∧
      reviewed.begin = (submitting, .ok ()) ∧
      ∀ lookup : List LookupEntry, ∃ payloads : List Payload,
        submitting.payloads lookup = .ok payloads ∧
        List.Forall₂ (Payload.Shows mode keys lookup) rows payloads := by
  have hformat : FileFormat.ofName name = .ok (.delimited false) := by
    unfold FileFormat.ofName
    rw [hname]
    rfl
  refine ⟨⟨mode, .selected name (.delimited false) (.bytes (IsCleanFile.bytes separator keys rows))⟩,
    ⟨mode, .review (IsCleanFile.draft name keys rows)⟩,
    ⟨mode, .submitting (IsCleanFile.draft name keys rows)⟩, ?_, ?_, rfl, rfl, rfl, rfl, ?_⟩
  · simp only [selectFile, new, hformat]
    rfl
  · simp only [decode, h.read_eq hs, h.reviewing_eq]
    rfl
  · intro lookup
    exact ⟨_, rfl, h.shows_ofRows lookup⟩

/-- Columns in an order of their own, a separator, quotation marks and a line break in a cell, and
a row of which hardly anything can be used. -/
def Sample.leaseKeys : List String := ["starts_on", "tenant_full_name", "monthly_rent", "unit_name"]

def Sample.leaseRows : List (List String) :=
  [["31/12/2024", "Ana;\n\"B\"", "", "CASA"], [" ", "", "x", "?"]]

def Sample.leaseUnits : List LookupEntry := [⟨"u1", "Casa", none, some "p1"⟩]

theorem Sample.isCleanFile_leases : IsCleanFile .leases Sample.leaseKeys Sample.leaseRows where
  known := by decide
  distinct := by decide
  required := by decide
  rows_ne_nil := by decide
  shaped := by decide

theorem leases_round_trip :
    ∃ selected reviewed submitting : Session, ∃ payloads : List Payload,
      (new .leases).selectFile "leases.csv" (.bytes
          ((Delimited.WrittenFile.quoted (Sample.leaseKeys :: Sample.leaseRows)).bytes ';')) =
        (selected, .ok ()) ∧
      selected.decode = (reviewed, .ok .validated) ∧
      reviewed.begin = (submitting, .ok ()) ∧
      submitting.payloads Sample.leaseUnits = .ok payloads ∧
      payloads.map Payload.object =
        [[("unit_id", .str "u1"), ("property_id", .str "p1"),
            ("tenant_full_name", .str "Ana;\n\"B\""), ("starts_on", .str "2024-12-31"),
            ("currency", .str "PYG")],
          [("unit_id", .str ""), ("tenant_full_name", .str ""), ("starts_on", .str ""),
            ("currency", .str "PYG")]] := by
  have hseparator : ';' ∈ Delimited.candidates := by decide
  have hname : FileFormat.extension "leases.csv" = "csv" := by decide
  obtain ⟨selected, reviewed, submitting, hselect, hdecode, -, -, -, hbegin, hpayloads⟩ :=
    clean_file_round_trip Sample.isCleanFile_leases hseparator hname
  obtain ⟨payloads, hbuilt, hshown⟩ := hpayloads Sample.leaseUnits
  refine ⟨selected, reviewed, submitting, payloads, hselect, hdecode, hbegin, hbuilt, ?_⟩
  rw [Payload.map_object_of_shows hshown]
  rfl

end Session

end SheetIntake
