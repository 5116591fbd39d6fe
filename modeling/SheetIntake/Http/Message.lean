import SheetIntake.Http.Body
import SheetIntake.Service.Request
import SheetIntake.Text.MediaType

/-! # Requests and responses on the wire

A request has a method, a target, headers and a body.  A response has a status and may have
a JSON body. -/

namespace SheetIntake.Http

structure Request where
  method : String
  /-- The path and the query, which a scheme and a host may precede. -/
  target : String
  headers : List (String × String)
  body : Body

structure Response where
  status : Nat
  body : Option Json

namespace Response

/-- A response that says nothing but its status. -/
def bare (status : Nat) : Response := { status, body := none }

def ofReply (r : Service.Reply) : Response := { status := r.status, body := r.body }

def badRequest (detail : String) : Response :=
  ofReply (.refused (.badRequest detail))

end Response

/-! ## Headers -/

/-- The value of a header, whose name is given in lower case. -/
def Request.header? (r : Request) (name : String) : Option String :=
  (r.headers.find? fun h => Text.asciiLower h.1 == name).map Prod.snd

/-- Whether a header can be read as text. -/
def isVisible (s : String) : Bool :=
  s.toList.all fun c => c = '\t' || (0x20 ≤ c.toNat && c.toNat < 0x7F)

/-- The media type of the body. -/
def Request.mediaType? (r : Request) : Option Text.MediaType :=
  ((r.header? "content-type").filter isVisible).bind Text.MediaType.parse?

/-- Whether a media type is one of JSON. -/
def isJson (m : Text.MediaType) : Bool :=
  m.type == "application" && (m.subtype == "json" || m.suffix == some "json")

/-- The boundary of a form, whose parts it separates. -/
def formBoundary? (m : Text.MediaType) : Option String :=
  if m.type = "multipart" ∧ m.subtype = "form-data" then m.parameter? "boundary" else none

/-- What the header of a bearer token starts with. -/
def bearerHead : String := "Bearer "

/-- The token that the caller has sent. -/
def Request.bearerToken? (r : Request) : Option String :=
  ((r.header? "authorization").filter isVisible).bind fun value =>
    if value.startsWith bearerHead then
      Text.trimmed? (String.ofList (value.toList.drop bearerHead.length))
    else none

end SheetIntake.Http
