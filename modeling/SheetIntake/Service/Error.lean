import SheetIntake.Batch.Result
import SheetIntake.ImportError

/-! # Refused requests

Why the service refuses a request, with the status and the code that tell clients the
causes apart. -/

namespace SheetIntake

/-- Why a request is refused. -/
inductive ServiceError where
  | refused (e : ImportError)
  /-- The backend could not serve a request made for the caller. -/
  | backend (e : RecordError)
  | badRequest (detail : String)
  /-- A failure of the service itself, whose detail is kept from clients. -/
  | broken (detail : String)
deriving DecidableEq

namespace ServiceError

/-- The refusal of a request because of an import.  Reading that breaks off is a failure of
the service itself. -/
def ofImport : ImportError → ServiceError
  | .overflow detail => broken detail
  | e => refused e

/-- The whole message, for the records of the service. -/
def message : ServiceError → String
  | refused e => e.message
  | backend e => "Backend error: " ++ e.message
  | badRequest detail => "Bad request: " ++ detail
  | broken detail => "Internal error: " ++ detail

def status : ServiceError → Nat
  | refused e =>
    match e with
    | .unsupportedFormat _ => 415
    | .unreadable _ | .noRows | .emptySheet _ | .passwordProtected => 422
    | .sheetOutOfRange .. | .invalid _ => 400
    | .wrongState .. | .cancelled => 409
    | .notFound .. => 404
    | .overflow _ => 500
  | backend _ => 502
  | badRequest _ => 400
  | broken _ => 500

/-- The word by which clients tell causes apart. -/
def code : ServiceError → String
  | refused e =>
    match e with
    | .unsupportedFormat _ => "UNSUPPORTED_FORMAT"
    | .unreadable _ => "PARSE_ERROR"
    | .noRows => "EMPTY_FILE"
    | .emptySheet _ => "EMPTY_SHEET"
    | .passwordProtected => "PASSWORD_PROTECTED"
    | .sheetOutOfRange .. => "SHEET_OUT_OF_RANGE"
    | .invalid _ => "VALIDATION_ERROR"
    | .wrongState .. => "INVALID_STATE"
    | .notFound .. => "NOT_FOUND"
    | .cancelled => "CANCELLED"
    | .overflow _ => "INTERNAL_ERROR"
  | backend _ => "BACKEND_ERROR"
  | badRequest _ => "BAD_REQUEST"
  | broken _ => "INTERNAL_ERROR"

/-- What clients are told. -/
def publicMessage : ServiceError → String
  | refused (.invalid detail) => detail
  | refused (.notFound entity id) => s!"{entity} with id {id} not found"
  | refused e => e.message
  | backend e => e.message
  | badRequest detail => detail
  | broken _ => "An internal error occurred"

def toJson (e : ServiceError) : Json :=
  .obj [("error", .str e.publicMessage), ("code", .str e.code)]

end ServiceError

end SheetIntake
