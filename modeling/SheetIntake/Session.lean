import SheetIntake.Batch.Result
import SheetIntake.Payload.Build
import SheetIntake.Upload.Content

/-! # Import sessions

An import goes from a selected file over a decoded table and a reviewed mapping
to a submission and its summary:

    idle → file selected → (choosing a sheet →) review → submitting → completed

A review whose mapping leaves no required field out is *validated* and can be
submitted.  Every stage but the first and the last can be cancelled, and those two
can be reset; both lead back to idle.  An action that is refused leaves the session
as it was, except that a file or sheet that cannot be read sends it back to idle.  Reading
that breaks off leaves it as it was, too. -/

namespace SheetIntake

/-! ## Stages -/

/-- A file that has been read, with the mapping of its columns. -/
structure Draft where
  fileName : String
  sheetName : Option String
  table : Table
  mapping : Mapping
  /-- The required fields that no column goes to, as messages. -/
  problems : List String
deriving DecidableEq

/-- The same file under another mapping, which is validated anew. -/
def Draft.remapped (d : Draft) (mode : Mode) (mapping : Mapping) : Draft :=
  { d with mapping, problems := Mapping.problems mode.fields mapping }

/-- How far an import has come. -/
inductive SessionStage where
  | idle
  | selected (fileName : String) (format : FileFormat) (content : Content)
  /-- The workbook has several sheets, of which one has to be chosen. -/
  | choosing (fileName : String) (content : Content) (names : List String)
  | review (d : Draft)
  | submitting (d : Draft)
  | completed (d : Draft) (summary : Summary)
deriving DecidableEq

/-- How stages are called. -/
inductive Status where
  | idle
  | fileSelected
  | multiSheetPending
  | decoded
  | mappingReview
  | validated
  | submitting
  | completed
deriving DecidableEq

namespace Status

def name : Status → String
  | idle => "idle"
  | fileSelected => "file_selected"
  | multiSheetPending => "multi_sheet_pending"
  | decoded => "decoded"
  | mappingReview => "mapping_review"
  | validated => "validated"
  | submitting => "submitting"
  | completed => "completed"

def all : List Status :=
  [idle, fileSelected, multiSheetPending, decoded, mappingReview, validated, submitting, completed]

/-- Whether the mapping can be edited. -/
def isReviewing : Status → Bool
  | mappingReview | validated => true
  | _ => false

end Status

/-- An import.  Its mode never changes. -/
structure Session where
  mode : Mode
  stage : SessionStage
deriving DecidableEq

namespace Session

/-- A new session. -/
def new (mode : Mode) : Session := { mode, stage := .idle }

/-! ## What can be seen of a session -/

def draft? (s : Session) : Option Draft :=
  match s.stage with
  | .review d | .submitting d | .completed d _ => some d
  | _ => none

def problems (s : Session) : List String := (s.draft?.map Draft.problems).getD []

def status (s : Session) : Status :=
  match s.stage with
  | .idle => .idle
  | .selected .. => .fileSelected
  | .choosing .. => .multiSheetPending
  | .review d => if d.problems.isEmpty then .validated else .mappingReview
  | .submitting _ => .submitting
  | .completed .. => .completed

def fileName? (s : Session) : Option String :=
  match s.stage with
  | .idle => none
  | .selected name .. | .choosing name .. => some name
  | .review d | .submitting d | .completed d _ => some d.fileName

/-- The names of the sheets to choose from. -/
def sheetNames (s : Session) : List String :=
  match s.stage with
  | .choosing _ _ names => names
  | _ => []

def sheetName? (s : Session) : Option String := s.draft?.bind Draft.sheetName

def table (s : Session) : Table := (s.draft?.map Draft.table).getD ⟨[], []⟩

def mapping (s : Session) : Mapping := (s.draft?.map Draft.mapping).getD []

def summary? (s : Session) : Option Summary :=
  match s.stage with
  | .completed _ summary => some summary
  | _ => none

/-! ## Actions -/

/-- The refusal of an action that does not fit the stage. -/
def refuse (s : Session) (action : String) : ImportError := .wrongState action s.status.name

/-- The session that goes back to the start. -/
def cleared (s : Session) : Session := new s.mode

/-- The session that reviews a table under the proposed mapping. -/
def reviewing (s : Session) (fileName : String) (sheetName : Option String) (t : Table) : Session :=
  let mapping := Mapping.propose s.mode.fields t.headers
  let problems := Mapping.problems s.mode.fields mapping
  { s with stage := .review { fileName, sheetName, table := t, mapping, problems } }

/-- Attaches a file, whose name decides how it will be read. -/
def selectFile (s : Session) (name : String) (content : Content) :
    Session × Except ImportError Unit :=
  match s.stage with
  | .idle =>
    match FileFormat.ofName name with
    | .ok format => ({ s with stage := .selected name format content }, .ok ())
    | .error e => (s, .error e)
  | _ => (s, .error (s.refuse "select a file"))

/-- Reads the selected file. -/
def decode (s : Session) : Session × Except ImportError Status :=
  match s.stage with
  | .selected name format content =>
    match content.read format with
    | .ok (.choice names) =>
      let next := { s with stage := .choosing name content names }
      (next, .ok next.status)
    | .ok (.table sheetName t) =>
      let next := s.reviewing name sheetName t
      (next, .ok next.status)
    | .error (.overflow detail) => (s, .error (.overflow detail))
    | .error e => (s.cleared, .error e)
  | _ => (s, .error (s.refuse "decode the file"))

/-- Reads the sheet with a number.  A number without a sheet leaves the choice open. -/
def chooseSheet (s : Session) (number : Nat) : Session × Except ImportError Status :=
  match s.stage with
  | .choosing name content names =>
    match content.decodeSheet number with
    | .ok t =>
      let next := s.reviewing name names[number - 1]? t
      (next, .ok next.status)
    | .error (.sheetOutOfRange index count) => (s, .error (.sheetOutOfRange index count))
    | .error (.overflow detail) => (s, .error (.overflow detail))
    | .error e => (s.cleared, .error e)
  | _ => (s, .error (s.refuse "choose a sheet"))

/-- Edits the mapping and says what is missing then. -/
def edit (s : Session) (change : Draft → Except ImportError Mapping) :
    Session × Except ImportError (List String) :=
  match s.stage with
  | .review d =>
    match change d with
    | .ok mapping =>
      let next := { s with stage := .review (d.remapped s.mode mapping) }
      (next, .ok next.problems)
    | .error e => (s, .error e)
  | _ => (s, .error (s.refuse "edit the mapping"))

/-- Points a column at a field, or skips it. -/
def assign (s : Session) (header : String) (target : Option String) :
    Session × Except ImportError (List String) :=
  s.edit fun d => d.mapping.assign s.mode.fields header target

/-- Replaces the whole mapping. -/
def replaceMapping (s : Session) (mapping : Mapping) :
    Session × Except ImportError (List String) :=
  s.edit fun d => Mapping.replace s.mode.fields d.table.headers mapping

/-- Starts the submission of a validated import. -/
def begin (s : Session) : Session × Except ImportError Unit :=
  match s.stage with
  | .review d =>
    match d.problems with
    | [] => ({ s with stage := .submitting d }, .ok ())
    | problems => (s, .error (.invalid ("; ".intercalate problems)))
  | _ => (s, .error (s.refuse "submit"))

/-- The payloads of all rows, in row order. -/
def payloads (s : Session) (lookup : List LookupEntry) : Except ImportError (List Payload) :=
  match s.stage with
  | .submitting d => .ok (Payload.ofRows s.mode d.table.rows d.mapping lookup)
  | _ => .error (s.refuse "build payloads")

/-- Takes the submission back. -/
def abort (s : Session) : Session × Except ImportError Unit :=
  match s.stage with
  | .submitting d => ({ s with stage := .review d }, .ok ())
  | _ => (s, .error (s.refuse "abort the submission"))

/-- Records the summary of the submission. -/
def complete (s : Session) (summary : Summary) : Session × Except ImportError Unit :=
  match s.stage with
  | .submitting d => ({ s with stage := .completed d summary }, .ok ())
  | _ => (s, .error (s.refuse "complete the import"))

/-- Gives up whatever is in progress. -/
def cancel (s : Session) : Session × Except ImportError Unit :=
  match s.stage with
  | .idle | .completed .. => (s, .error (s.refuse "cancel"))
  | _ => (s.cleared, .ok ())

/-- Starts over from an import that has not begun or is finished. -/
def reset (s : Session) : Session × Except ImportError Unit :=
  match s.stage with
  | .idle | .completed .. => (s.cleared, .ok ())
  | _ => (s, .error (s.refuse "reset"))

end Session

end SheetIntake
