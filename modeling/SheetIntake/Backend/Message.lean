import SheetIntake.Batch.Result
import SheetIntake.Json.Node

/-! # Messages of the backend

The body of a refusal is reduced to one message: if it is a JSON object, the first of
three members that says something, else the body itself. -/

namespace SheetIntake.Backend

/-- The members in which a message may stand, in order of precedence. -/
def messageKeys : List String := ["detail", "error", "message"]

/-- The message in a member; nothing in a null or a blank text. -/
def messageIn : Json → Option String
  | .null => none
  | .str s => Text.trimmed? s
  | j => some j.text

/-- The message in a JSON object. -/
def messageOf (j : Json) : Option String :=
  messageKeys.findSome? fun key => (j.member? key).bind messageIn

/-- The message of the body of a refusal. -/
def extractMessage (body : String) : String :=
  (((Json.parse? body).bind messageOf).or (Text.trimmed? body)).getD "Empty response body"

/-- An answer that means no success, with its whole body. -/
structure Refusal where
  status : Nat
  body : String

namespace Refusal

def message (r : Refusal) : String := s!"Backend API error ({r.status}): {r.body}"

def toRecordError (r : Refusal) : RecordError := .rejected r.status (extractMessage r.body)

end Refusal

end SheetIntake.Backend
