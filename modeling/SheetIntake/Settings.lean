import SheetIntake.Number.Numeral
import SheetIntake.Table.TextMap
import SheetIntake.Text.Blank

/-! # Settings

Settings are texts under names; one that is not set has a default.  They are read in
a fixed order, and the first number that is none is reported. -/

namespace SheetIntake

/-! ## Numbers -/

/-- Why a text is no number. -/
inductive NumberFault where
  | empty
  | invalidDigit
  | tooLarge
deriving DecidableEq

def NumberFault.name : NumberFault → String
  | empty => "Empty"
  | invalidDigit => "InvalidDigit"
  | tooLarge => "PosOverflow"

/-- A setting that should be a number of a certain width and is none. -/
structure BadSetting where
  name : String
  width : String
  fault : NumberFault
deriving DecidableEq

def BadSetting.message (b : BadSetting) : String :=
  s!"{b.name} must be a valid {b.width}: ParseIntError " ++
    "\x7b kind: " ++ b.fault.name ++ " \x7d"

/-- A width of numbers: its name, and the number of its bits. -/
structure NumberWidth where
  name : String
  bits : Nat

namespace NumberWidth

/-- The numbers of sockets. -/
def socket : NumberWidth := ⟨"u16", 16⟩

/-- Spans of time. -/
def seconds : NumberWidth := ⟨"u64", 64⟩

/-- Counts and sizes. -/
def size : NumberWidth := ⟨"usize", 64⟩

/-- Reads on in a number, whose first digits amount to `n`.  The first character that does
not fit decides, be it no digit or one too many. -/
def readDigits (w : NumberWidth) (n : Nat) : List Char → Except NumberFault Nat
  | [] => .ok n
  | c :: cs =>
    if !c.isDigit then .error .invalidDigit
    else
      let n := n * 10 + digitValue c
      if Nat.pow 2 w.bits ≤ n then .error .tooLarge else w.readDigits n cs

/-- A number with an optional plus sign. -/
def parse (w : NumberWidth) (text : String) : Except NumberFault Nat :=
  match text.toList with
  | [] => .error .empty
  | ['+'] => .error .invalidDigit
  | '+' :: cs => w.readDigits 0 cs
  | cs => w.readDigits 0 cs

end NumberWidth

/-- What is set. -/
abbrev Environment := TextMap

/-- A setting that is a number. -/
def Environment.number (env : Environment) (name : String) (w : NumberWidth) (default : Nat) :
    Except BadSetting Nat :=
  match env.get? name with
  | none => .ok default
  | some text => (w.parse text).mapError fun fault => { name, width := w.name, fault }

/-! ## The server -/

structure ServerSettings where
  host : String
  /-- The socket that the server listens at. -/
  socket : Nat
  /-- The origins whose pages may call the service. -/
  origins : List String
  requestTimeout : Nat
  /-- The largest body that is accepted, in bytes. -/
  maxUpload : Nat
  /-- Seconds after which a session that nobody uses is dropped. -/
  idleTime : Nat
deriving DecidableEq

/-- The parts of a text between commas. -/
def splitCommas : List Char → List (List Char)
  | [] => [[]]
  | c :: cs =>
    if c = ',' then [] :: splitCommas cs
    else match splitCommas cs with
      | [] => [[c]]
      | part :: parts => (c :: part) :: parts

def ServerSettings.read (env : Environment) : Except BadSetting ServerSettings := do
  let socket ← env.number "PORT" .socket 3000
  let requestTimeout ← env.number "REQUEST_TIMEOUT_SECS" .seconds 30
  let maxUpload ← env.number "MAX_UPLOAD_BYTES" .size (20 * 1024 * 1024)
  let idleTime ← env.number "SESSION_IDLE_TTL_SECS" .seconds 3600
  let origins := (env.get? "CORS_ORIGINS").getD "http://localhost:5173"
  return {
    host := (env.get? "HOST").getD "0.0.0.0"
    socket, requestTimeout, maxUpload, idleTime
    origins := (splitCommas origins.toList).filterMap fun o => Text.trimmed? (String.ofList o) }

/-! ## The backend -/

structure BackendSettings where
  /-- The address under which the collections of records lie. -/
  apiUrl : String
  /-- The token that is sent when the caller has none. -/
  serviceToken : Option String
  requestTimeout : Nat
  /-- The number of records that may be under way at once. -/
  concurrency : Nat
deriving DecidableEq

namespace BackendSettings

/-- An address without slashes at its end. -/
def trimSlashes (url : String) : String :=
  String.ofList (url.toList.reverse.dropWhile (· = '/')).reverse

def defaults : BackendSettings where
  apiUrl := "http://localhost:8000/v1"
  serviceToken := none
  requestTimeout := 30
  concurrency := 4

def read (env : Environment) : Except BadSetting BackendSettings := do
  let requestTimeout ←
    env.number "BACKEND_REQUEST_TIMEOUT_SECS" .seconds defaults.requestTimeout
  let concurrency ← env.number "IMPORT_MAX_CONCURRENCY" .size defaults.concurrency
  return {
    apiUrl := trimSlashes ((env.get? "BACKEND_API_URL").getD defaults.apiUrl)
    serviceToken := (env.get? "BACKEND_API_TOKEN").bind Text.trimmed?
    requestTimeout
    concurrency := max 1 concurrency }

end BackendSettings

/-! ## Origins -/

/-- Why a list of origins cannot be served. -/
inductive BadOrigins where
  | unsendable (origin : String)
  | wildcard
deriving DecidableEq

def BadOrigins.message : BadOrigins → String
  | unsendable origin => s!"Invalid CORS origin '{origin}': failed to parse header value"
  | wildcard => "Wildcard origin (`*`) cannot be passed to `AllowOrigin::list`. " ++
      "Use `AllowOrigin::any()` instead"

/-- Whether a character may stand in a header: no control character but the tab. -/
def isHeaderChar (c : Char) : Bool := c = '\t' || (0x20 ≤ c.toNat && c.toNat ≠ 0x7F)

/-- Whether a text can be sent in a header. -/
def isSendable (s : String) : Bool := s.toList.all isHeaderChar

/-- Checks that every origin can be sent and that none stands for all. -/
def checkOrigins (origins : List String) : Except BadOrigins Unit :=
  match origins.find? fun o => !isSendable o with
  | some o => .error (.unsendable o)
  | none => if origins.contains "*" then .error .wildcard else .ok ()

end SheetIntake
