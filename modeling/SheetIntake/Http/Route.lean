import SheetIntake.Http.Form
import SheetIntake.Http.Message

/-! # Routes

The paths of the service, and how a request on one of them is read.  The path is checked
before the body: an unknown path, a method that a path does not have, an identifier that
is none, the type, the size and the text of the body, in this order. -/

namespace SheetIntake.Http

/-! ## Paths -/

/-- What follows the scheme of a target, if it has one. -/
def behindScheme? : List Char → Option (List Char)
  | ':' :: '/' :: '/' :: cs => some cs
  | c :: cs => if c.isAlphanum || c = '+' || c = '-' || c = '.' then behindScheme? cs else none
  | [] => none

/-- Whether the host of a target ends before a character. -/
def endsHost (c : Char) : Bool := c = '/' || c = '?' || c = '#'

/-- The path of a target, without its scheme, host, query and fragment.  What neither starts
with a slash nor has a scheme is a host and has no path. -/
def pathOf (target : List Char) : List Char :=
  let path := match target with
    | '/' :: _ => target
    | _ => ((behindScheme? target).getD []).dropWhile fun c => !endsHost c
  path.takeWhile fun c => c ≠ '?' && c ≠ '#'

/-- A path of the service.  The variable part is given as it stands in the path. -/
inductive Route where
  | health
  | imports
  | fields (mode : String)
  | session (id : String)
  | sheet (id : String)
  | mappings (id : String)
  | submit (id : String)
  | cancel (id : String)
  | reset (id : String)

namespace Route

/-- The route of the segments behind the first slash. -/
def ofSegments? : List String → Option Route
  | ["health"] => some health
  | "api" :: "v1" :: "imports" :: rest =>
    match rest with
    | [] => some imports
    | ["fields", mode] => if mode.isEmpty then none else some (fields mode)
    | [id] => if id.isEmpty then none else some (session id)
    | [id, action] =>
      if id.isEmpty then none
      else match action with
        | "sheet" => some (sheet id)
        | "mappings" => some (mappings id)
        | "submit" => some (submit id)
        | "cancel" => some (cancel id)
        | "reset" => some (reset id)
        | _ => none
    | _ => none
  | _ => none

/-- The route of a target. -/
def ofTarget? (target : String) : Option Route :=
  match (String.ofList (pathOf target.toList)).splitOn "/" with
  | "" :: segments => ofSegments? segments
  | _ => none

end Route

/-- Bytes with escapes `%XX` in place of the bytes they stand for. -/
def unescaped : List Char → List UInt8
  | [] => []
  | '%' :: a :: b :: cs =>
    match Uuid.digit? a, Uuid.digit? b with
    | some x, some y => UInt8.ofNat (x * 16 + y) :: unescaped cs
    | _, _ => 0x25 :: unescaped (a :: b :: cs)
  | c :: cs => Text.Utf8.encode [c] ++ unescaped cs

/-- The text of a segment, if it is one. -/
def segmentText? (segment : String) : Option String :=
  ((Text.Utf8.decode (unescaped segment.toList)).toOption).map String.ofList

def segmentId? (segment : String) : Option Uuid := (segmentText? segment).bind Uuid.parse?

/-! ## Bodies -/

/-- The most that a request may take: bytes of a body, and time. -/
structure Limits where
  body : Nat
  time : Nat

/-- A body that names a sheet. -/
def sheetShape : Json.Shape Nat where
  called := "ChooseSheetRequest"
  fields := [
    { name := "sheet", spellings := ["sheet"], required := true, read := fun n _ => n.readWord }]

/-- A body that replaces the mapping. -/
def mappingShape : Json.Shape Mapping where
  called := "ReplaceMappingsRequest"
  fields := [
    { name := "mappings", spellings := ["mappings"], required := true
      read := fun n _ => n.readList ColumnMapping.read }]

/-- A body that edits one column. -/
def columnShape : Json.Shape ColumnMapping :=
  { ColumnMapping.shape with called := "UpdateMappingRequest" }

/-- A body that starts a submission: for which organization, and with which table. -/
structure SubmitBody where
  organization : String
  table : Option (List LookupEntry)

def submitShape : Json.Shape SubmitBody where
  called := "SubmitRequest"
  fields := [
    { name := "organization_id", spellings := ["organization_id"], required := true
      read := fun n b => n.readText.map fun organization => { b with organization } },
    { name := "lookup", spellings := ["lookup"], required := false
      read := fun n b =>
        (n.readOption (Json.Node.readList LookupEntry.read)).map fun table => { b with table } }]

namespace Request

/-- The structure in a JSON body. -/
def json {α : Type} (r : Request) (limit : Nat) (shape : Json.Shape α) (start : α) :
    Except Response α :=
  if !r.mediaType?.any isJson then .error (.bare 415)
  else if limit < r.body.length then .error (.bare 413)
  else match Text.Utf8.decode r.body.bytes with
    | .error _ => .error (.bare 400)
    | .ok cs =>
      let d := Json.Document.read cs
      match shape.read start d.root with
      | .error fault => .error (.bare (if fault.isSyntactic then 400 else 422))
      | .ok a => if d.clean then .ok a else .error (.bare 400)

/-! ## Uploads -/

/-- What a form that cannot be read is answered with. -/
def badForm : Response := .badRequest "Error parsing `multipart/form-data` request"

/-- The parts of the body. -/
def form? (r : Request) (limit : Nat) : Except Response Form :=
  match r.mediaType?.bind formBoundary? with
  | none => .error (.bare 400)
  | some boundary =>
    if limit < r.body.length then .error badForm
    else .ok (Form.read boundary r.body)

/-- What has been found in an upload so far. -/
structure Upload where
  mode : Option Mode
  file : Option (String × Content)

/-- Takes a part into account.  Of several parts with one name the last one counts. -/
def takePart (u : Upload) (p : Part) : Except Response Upload :=
  match p.name? with
  | some "mode" =>
    match Mode.parse p.text with
    | .ok m => .ok { u with mode := some m }
    | .error e => .error (.badRequest e.message)
  | some "file" => .ok { u with file := some ((p.fileName?).getD "", p.content) }
  | _ => .ok u

def upload (r : Request) (limit : Nat) : Except Response Service.Request := do
  let form ← r.form? limit
  let u ← form.parts.foldlM takePart { mode := none, file := none }
  if !form.whole then .error badForm
  match u.mode, u.file with
  | none, _ => .error (.badRequest "Missing 'mode' field in upload")
  | _, none => .error (.badRequest "Missing 'file' part in upload")
  | some mode, some (name, content) => return .upload mode name content

/-! ## Requests -/

/-- The method that decides; asking for the headers is asking for all. -/
def effectiveMethod (r : Request) : String := if r.method = "HEAD" then "GET" else r.method

/-- Goes on with the identifier in a segment. -/
def withId {α : Type} (segment : String) (next : Uuid → Except Response α) : Except Response α :=
  match segmentId? segment with
  | some id => next id
  | none => .error (.bare 400)

/-- Reads a request on a route; `limit` is the largest body that is accepted. -/
def onRoute (r : Request) (limit : Nat) (route : Route) : Except Response Service.Request :=
  match route, r.effectiveMethod with
  | .health, "GET" => .ok .health
  | .imports, "POST" => r.upload limit
  | .fields mode, "GET" =>
    match segmentText? mode with
    | some text => .ok (.fields text)
    | none => .error (.bare 400)
  | .session segment, "GET" => withId segment fun id => .ok (.get id)
  | .session segment, "DELETE" => withId segment fun id => .ok (.delete id)
  | .sheet segment, "POST" =>
    withId segment fun id => do return .chooseSheet id (← r.json limit sheetShape 0)
  | .mappings segment, "PUT" =>
    withId segment fun id => do return .replaceMapping id (← r.json limit mappingShape [])
  | .mappings segment, "PATCH" =>
    withId segment fun id => do
      let c ← r.json limit columnShape { header := "", target := none }
      return .assign id c.header c.target
  | .submit segment, "POST" =>
    withId segment fun id => do
      let b ← r.json limit submitShape { organization := "", table := none }
      return .submit id b.organization r.bearerToken? b.table
  | .cancel segment, "POST" => withId segment fun id => .ok (.cancel id)
  | .reset segment, "POST" => withId segment fun id => .ok (.reset id)
  | _, _ => .error (.bare 405)

/-- Reads a request.  What a browser asks for before a call is granted on every path.  A
request that may take no time at all is over before it is read. -/
def read (r : Request) (limits : Limits) : Except Response Service.Request :=
  if r.method = "OPTIONS" then .error (.bare 200)
  else if limits.time = 0 then .error (.bare 408)
  else match Route.ofTarget? r.target with
    | some route => r.onRoute limits.body route
    | none => .error (.bare 404)

/-- The response to a request, given the reply to it; without one its time is over. -/
def respond (r : Request) : Option Service.Reply → Response
  | none => .bare 408
  | some reply =>
    let response := Response.ofReply reply
    if r.method = "HEAD" then .bare response.status else response

end Request

end SheetIntake.Http
