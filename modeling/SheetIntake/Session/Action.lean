import SheetIntake.Session

/-! # Actions on a session

Everything that can be done to a session, as one step function. -/

namespace SheetIntake.Session

/-- Something done to a session. -/
inductive Action where
  | selectFile (name : String) (content : Content)
  | decode
  | chooseSheet (number : Nat)
  | assign (header : String) (target : Option String)
  | replaceMapping (mapping : Mapping)
  | begin
  | payloads (lookup : List LookupEntry)
  | abort
  | complete (summary : Summary)
  | cancel
  | reset

/-- What an action that succeeds has to say. -/
inductive Answer where
  | done
  | status (s : Status)
  | problems (messages : List String)
  | payloads (ps : List Payload)

/-- One action. -/
def perform (s : Session) : Action → Session × Except ImportError Answer
  | .selectFile name content => (s.selectFile name content).map id (·.map fun _ => .done)
  | .decode => s.decode.map id (·.map .status)
  | .chooseSheet number => (s.chooseSheet number).map id (·.map .status)
  | .assign header target => (s.assign header target).map id (·.map .problems)
  | .replaceMapping mapping => (s.replaceMapping mapping).map id (·.map .problems)
  | .begin => s.begin.map id (·.map fun _ => .done)
  | .payloads lookup => (s, (s.payloads lookup).map .payloads)
  | .abort => s.abort.map id (·.map fun _ => .done)
  | .complete summary => (s.complete summary).map id (·.map fun _ => .done)
  | .cancel => s.cancel.map id (·.map fun _ => .done)
  | .reset => s.reset.map id (·.map fun _ => .done)

/-- The session after a list of actions. -/
def after (s : Session) (actions : List Action) : Session :=
  actions.foldl (fun s a => (s.perform a).1) s

/-- A session that some actions lead to from a new one. -/
def Reachable (s : Session) : Prop := ∃ mode actions, s = (new mode).after actions

end SheetIntake.Session
