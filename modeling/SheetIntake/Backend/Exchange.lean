import SheetIntake.Backend.Message
import SheetIntake.Lookup
import SheetIntake.Payload.Basic
import SheetIntake.Settings
import SheetIntake.Text.Charset

/-! # Talking to the backend

A record is created by a `POST` to the collection of its mode, with the payload and the
organization as one JSON object.  The records that cells can refer to come from a `GET`
of another collection.  The caller's token is sent if there is one, else that of the
service.

An answer whose status means no success is a refusal.  After a success the id of the
new record is taken from the body if it can be read; a table that cannot be read is an
error. -/

namespace SheetIntake.Backend

/-- For whom a request is made. -/
structure Scope where
  organization : String
  token : Option String
deriving DecidableEq

/-- Where the backend is, and the token that is sent for callers without one. -/
structure Client where
  /-- The path under which the collections lie. -/
  base : String
  serviceToken : Option String

structure Request where
  method : String
  path : String
  authorization : Option String
  body : Option Json

structure Response where
  status : Nat
  contentType : Option String
  body : List UInt8

/-- What becomes of a request that is sent. -/
inductive Link where
  /-- No connection can be made. -/
  | unreachable
  /-- The connection is closed before an answer comes. -/
  | dropped
  /-- No answer comes. -/
  | silent
  | answered (r : Response)

/-! ## Requests -/

/-- A byte of a query value: letters, digits and four marks stand for themselves, a blank is
a plus sign, all else its two hexadecimal digits. -/
def queryByte (b : UInt8) : List Char :=
  let c := Char.ofNat b.toNat
  if c.isAlphanum || c = '*' || c = '-' || c = '.' || c = '_' then [c]
  else if c = ' ' then ['+']
  else
    ['%', (Nat.digitChar (b.toNat / 16)).toUpper, (Nat.digitChar (b.toNat % 16)).toUpper]

def queryValue (s : String) : String := String.ofList ((Text.Utf8.bytes s).flatMap queryByte)

/-- The token a request is made with. -/
def Client.token? (c : Client) (s : Scope) : Option String := s.token.or c.serviceToken

/-- A request, if its token can be sent. -/
def Client.request? (c : Client) (s : Scope) (method path : String) (body : Option Json) :
    Option Request :=
  let authorization := (c.token? s).map ("Bearer " ++ ·)
  if authorization.all isSendable then
    some { method, path := BackendSettings.trimSlashes c.base ++ path, authorization, body }
  else none

/-- The body that creates a record. -/
def creationBody (s : Scope) (p : Payload) : Json :=
  .obj (("organization_id", .str s.organization) :: p.object)

def Client.creation? (c : Client) (s : Scope) (p : Payload) : Option Request :=
  c.request? s "POST" s!"/{p.mode.name}" (some (creationBody s p))

/-- The most entries of a table that are asked for. -/
def pageSize : Nat := 500

/-- The collection that the references of a mode are looked up in. -/
def lookupMode? : Mode → Option Mode
  | .properties => none
  | .units => some .properties
  | .leases => some .units

def Client.lookup? (c : Client) (s : Scope) (collection : Mode) : Option Request :=
  c.request? s "GET"
    s!"/{collection.name}?org_id={queryValue s.organization}&limit={pageSize}" none

/-! ## Answers -/

namespace Response

def isSuccess (r : Response) : Bool := 200 ≤ r.status && r.status < 300

/-- The body as text. -/
def text (r : Response) : String :=
  (Text.Charset.ofContentType r.contentType).decode r.body

/-- The body as far as it is JSON. -/
def document (r : Response) : Json.Document :=
  match Text.Utf8.decode r.body with
  | .ok cs => Json.Document.read cs
  | .error _ => { root := .broken, clean := false }

def refusal (r : Response) : Refusal := { status := r.status, body := r.text }

/-- A created record; only its id is of interest. -/
def createdShape : Json.Shape (Option Json) where
  called := "CreatedRecord"
  fields := [
    { name := "id", spellings := ["id"], required := false
      read := fun n _ =>
        match n.toJson? Json.maxDepth with
        | some j => .ok (some j)
        | none => .error .malformed }]

/-- The id of a created record: a text, or a number as text. -/
def idText : Json → Option String
  | .str s => some s
  | .int n => some (Json.int n).text
  | .real x => some (Json.real x).text
  | _ => none

/-- The id in the body of a success. -/
def createdId? (r : Response) : Option String :=
  let d := r.document
  if !d.clean then none
  else match createdShape.read none d.root with
    | .ok id => id.bind idText
    | .error _ => none

/-- A table of entries under `data`. -/
def tableShape : Json.Shape (List LookupEntry) where
  called := "ListResponse"
  fields := [
    { name := "data", spellings := ["data"], required := true
      read := fun n _ => n.readList LookupEntry.read }]

/-- The table in the body of a success. -/
def table? (r : Response) : Option (List LookupEntry) :=
  let d := r.document
  if d.clean then (tableShape.read [] d.root).toOption else none

end Response

/-- The answer to a request as far as it is one. -/
def Link.answer : Link → Except RecordError Response
  | unreachable | dropped => .error (.transport "connection failed")
  | silent => .error .timeout
  | answered r => if r.isSuccess then .ok r else .error r.refusal.toRecordError

/-- Whether a request arrives at the backend. -/
def Link.arrives : Link → Bool
  | unreachable => false
  | _ => true

/-- A request, the link it goes over, and what becomes of it. -/
structure Exchange (α : Type) where
  /-- The request as the backend has seen it. -/
  seen : Option Request
  result : Except RecordError α

/-- Sends a request and reads the answer. -/
def exchange {α : Type} (request : Option Request) (link : Link)
    (read : Response → Except RecordError α) : Exchange α :=
  match request with
  | none => { seen := none, result := .error (.transport "builder error") }
  | some r =>
    { seen := if link.arrives then some r else none
      result := link.answer.bind read }

/-- Creates a record. -/
def Client.create (c : Client) (s : Scope) (p : Payload) (link : Link) :
    Exchange (Option String) :=
  exchange (c.creation? s p) link fun r => .ok r.createdId?

/-- Fetches the table that the references of a mode are looked up in. -/
def Client.fetchTable (c : Client) (s : Scope) (mode : Mode) (link : Link) :
    Exchange (List LookupEntry) :=
  match lookupMode? mode with
  | none => { seen := none, result := .ok [] }
  | some collection =>
    exchange (c.lookup? s collection) link fun r =>
      match r.table? with
      | some table => .ok table
      | none => .error (.transport "error decoding response body")

end SheetIntake.Backend
