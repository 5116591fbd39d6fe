import SheetIntake.Json.Value
import SheetIntake.Text.Blank

/-! # Results of a batch

Every row of a batch has one result.  A row fails with a message that is trimmed
and cut to a bounded length.  The summary counts the rows and keeps the failures,
in row order. -/

namespace SheetIntake

/-- Why the backend has not created a record. -/
inductive RecordError where
  /-- The backend has answered with a status that means no success. -/
  | rejected (status : Nat) (message : String)
  /-- There has been no answer that can be read. -/
  | transport (detail : String)
  | timeout
deriving DecidableEq

def RecordError.message : RecordError → String
  | rejected status message => s!"HTTP {status}: {message}"
  | transport detail => "Request failed: " ++ detail
  | timeout => "Request timed out"

/-! ## Bounded messages -/

/-- The longest message, in characters. -/
def messageLimit : Nat := 200

/-- What stands at the end of a message that has been cut. -/
def ellipsis : String := "..."

/-- A message without blanks around it, cut to the limit. -/
def truncated (message : String) : String :=
  let cs := Text.trimChars message.toList
  if cs.length ≤ messageLimit then String.ofList cs
  else String.ofList (cs.take (messageLimit - ellipsis.length)) ++ ellipsis

/-! ## Rows and summaries -/

/-- How the creation of a record ended. -/
inductive Outcome where
  /-- The record was created, and may have an id. -/
  | created (id : Option String)
  | failed (message : String)
deriving DecidableEq

namespace Outcome

/-- The outcome of an answer of the backend. -/
def ofAnswer : Except RecordError (Option String) → Outcome
  | .ok id => created id
  | .error e => failed e.message

def isSuccess : Outcome → Bool
  | created _ => true
  | failed _ => false

/-- The outcome with its message cut to the limit. -/
def bounded : Outcome → Outcome
  | created id => created id
  | failed message => failed (truncated message)

end Outcome

/-- The result of a row; rows count from 0. -/
structure RowResult where
  row : Nat
  outcome : Outcome
deriving DecidableEq

namespace RowResult

def of (row : Nat) (outcome : Outcome) : RowResult := { row, outcome := outcome.bounded }

def isSuccess (r : RowResult) : Bool := r.outcome.isSuccess

end RowResult

/-- What a finished batch amounts to. -/
structure Summary where
  total : Nat
  succeeded : Nat
  failed : List RowResult
deriving DecidableEq

/-- The summary of the results of all rows. -/
def Summary.ofResults (results : List RowResult) : Summary where
  total := results.length
  succeeded := results.countP RowResult.isSuccess
  failed := results.filter fun r => !r.isSuccess

/-! ## In JSON -/

def RowResult.toJson (r : RowResult) : Json :=
  .obj <| Json.present <| ("row_index", some (.int r.row)) :: match r.outcome with
    | .created id => [("status", some (.str "success")), ("record_id", id.map .str)]
    | .failed message => [("status", some (.str "failure")), ("error", some (.str message))]

def Summary.toJson (s : Summary) : Json :=
  .obj [("total_rows", .int s.total), ("succeeded_count", .int s.succeeded),
    ("failed_results", .arr (s.failed.map RowResult.toJson))]

end SheetIntake
