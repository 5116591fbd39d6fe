import SheetIntake.Service.Error
import SheetIntake.Session
import SheetIntake.Uuid

/-! # Requests and replies

What clients can ask of the service, and what it replies.  Most replies show the session
as it stands then. -/

namespace SheetIntake.Service

/-- What a client asks for. -/
inductive Request where
  | health
  | fields (mode : String)
  | upload (mode : Mode) (fileName : String) (content : Content)
  | get (id : Uuid)
  | delete (id : Uuid)
  | chooseSheet (id : Uuid) (number : Nat)
  | replaceMapping (id : Uuid) (mapping : Mapping)
  | assign (id : Uuid) (header : String) (target : Option String)
  /-- The token is that of the caller.  A table that is not given is fetched. -/
  | submit (id : Uuid) (organization : String) (token : Option String)
      (table : Option (List LookupEntry))
  | cancel (id : Uuid)
  | reset (id : Uuid)

/-- What a client sees of a session. -/
structure View where
  id : Uuid
  session : Session
  /-- The rows that have been dealt with so far. -/
  processed : Nat
deriving DecidableEq

/-- On what occasion a view is shown. -/
inductive Occasion where
  | created
  | shown
  /-- A submission has been started. -/
  | accepted
deriving DecidableEq

inductive Reply where
  | health (active : Nat)
  | fields (fs : List TargetField)
  | view (o : Occasion) (v : View)
  | removed
  | refused (e : ServiceError)
deriving DecidableEq

/-! ## In JSON -/

namespace View

/-- The number of rows that a view shows. -/
def previewRows : Nat := 10

def preview (v : View) : List (List String) :=
  (v.session.table.preview previewRows).map fun r => Row.cells r v.session.table.headers

def textsJson (ss : List String) : Json := .arr (ss.map .str)

def toJson (v : View) : Json := .obj [
  ("id", .str v.id.text),
  ("mode", .str v.session.mode.name),
  ("status", .str v.session.status.name),
  ("file_name", .ofText? v.session.fileName?),
  ("sheet_names", textsJson v.session.sheetNames),
  ("sheet_name", .ofText? v.session.sheetName?),
  ("headers", textsJson v.session.table.headers),
  ("mappings", .arr (v.session.mapping.map ColumnMapping.toJson)),
  ("validation_errors", textsJson v.session.problems),
  ("row_count", .int v.session.table.rows.length),
  ("preview", .arr (v.preview.map textsJson)),
  ("processed_rows", .int v.processed),
  ("summary", (v.session.summary?.map Summary.toJson).getD .null)]

end View

/-- The version that the service reports. -/
def version : String := "0.1.0"

namespace Reply

def status : Reply → Nat
  | health _ | fields _ | view .shown _ => 200
  | view .created _ => 201
  | view .accepted _ => 202
  | removed => 204
  | refused e => e.status

/-- The body of the reply, if it has one. -/
def body : Reply → Option Json
  | health active =>
    some (.obj [("status", .str "ok"), ("version", .str version), ("active_imports", .int active)])
  | fields fs => some (.obj [("data", .arr (fs.map TargetField.toJson))])
  | view _ v => some (.obj [("data", v.toJson)])
  | removed => none
  | refused e => some e.toJson

end Reply

end SheetIntake.Service
