import SheetIntake.Backend.Exchange
import SheetIntake.Batch.Run
import SheetIntake.Service.Request

/-! # The state of the service

The service keeps its sessions in a store.  Each lies behind a lock of its own, next to
the progress and the cancelling token of its current submission.  A handler serves one
request; it can be interrupted wherever it waits, and its `Stage` says where that is.
Besides handlers there are workers, which read a chosen sheet even if nobody waits for
them any more, and batches.

A session that has been taken out of the store stays known to the tasks that have looked
it up before. -/

namespace SheetIntake.Service

/-! ## Surroundings -/

/-- What becomes of a request for a lookup table. -/
structure FetchBehaviour where
  /-- The time until the answer; absent when there will never be one. -/
  delay : Option Nat
  answer : Except RecordError (List LookupEntry)

/-- What the service runs against. -/
structure Surroundings where
  /-- The behaviour for every creation, counted from 0 over all batches. -/
  backend : Batch.Backend
  /-- The behaviour for every fetch of a lookup table, counted from 0. -/
  tables : Nat → FetchBehaviour
  policy : Batch.Policy
  /-- The time after which a request that has not been answered is given up. -/
  requestTimeout : Nat

/-! ## Sessions -/

/-- A session and what belongs to it.  Tasks and tokens are known by number. -/
structure Handle where
  id : Uuid
  session : Session
  /-- The task that holds the lock of the session. -/
  holder : Option Nat
  /-- The rows that the current submission has dealt with. -/
  progress : Nat
  /-- The token of the current submission. -/
  token : Nat
  /-- When the session was last looked up, in milliseconds since 1970. -/
  lastSeen : Nat
  /-- Whether the session is still in the store. -/
  listed : Bool

namespace Handle

/-- Whether the session is being submitted or somebody holds its lock. -/
def isBusy (h : Handle) : Bool := h.holder.isSome || h.session.status == .submitting

def view (h : Handle) : View := { id := h.id, session := h.session, processed := h.progress }

end Handle

/-! ## Tasks -/

/-- Where a handler stands.  Sessions are given by their place in the list of handles. -/
inductive Stage where
  | arrived
  /-- Before the lock that the request is about. -/
  | atLock (h : Nat)
  /-- Behind the lock, where the token is about to be armed or cancelled. -/
  | inside (h : Nat)
  /-- Waiting for the lookup table. -/
  | fetching (h token : Nat) (due : Option Nat) (answer : Except RecordError (List LookupEntry))
  /-- Before the lock, to take the submission back. -/
  | aborting (h : Nat) (e : RecordError)
  /-- Before the lock, to build the payloads. -/
  | building (h token : Nat) (table : List LookupEntry)
  /-- Waiting for a worker. -/
  | working (h worker : Nat)
  /-- Before the lock, to show the session. -/
  | viewing (h : Nat) (o : Occasion)
  /-- The session is out of the store, but its token is not yet cancelled. -/
  | unlisted (h : Nat)
  | answered (r : Reply)
  /-- Given up before there was an answer. -/
  | dropped

namespace Stage

def isOver : Stage → Bool
  | answered _ | dropped => true
  | _ => false

end Stage

structure Handler where
  request : Request
  /-- When the request arrived. -/
  since : Nat
  stage : Stage

/-- The reading of a chosen sheet. -/
structure Worker where
  handle : Nat
  sheet : Nat
  /-- What came of it, once it is done. -/
  result : Option (Except ImportError Status)

/-- A submission in the background. -/
structure Submission where
  handle : Nat
  token : Nat
  scope : Backend.Scope
  run : Batch.Run Payload
  /-- Whether nothing is left to do, the recording of the summary included. -/
  finished : Bool

inductive Task where
  | handler (x : Handler)
  | worker (w : Worker)
  | submission (b : Submission)

/-! ## States -/

/-- A creation asked of the backend. -/
structure Call where
  handle : Nat
  row : Nat
  scope : Backend.Scope
  payload : Payload

/-- A lookup table asked of the backend. -/
structure Fetch where
  scope : Backend.Scope
  mode : Mode

structure State where
  /-- The time that timers see. -/
  clock : Nat
  /-- The time of day, in milliseconds since 1970. -/
  wall : Nat
  handles : List Handle
  tasks : List Task
  /-- The number of tokens handed out. -/
  tokens : Nat
  cancelled : List Nat
  calls : List Call
  fetches : List Fetch
  /-- The next identifier that is free. -/
  nextId : Nat

namespace State

/-- A service without sessions, whose identifiers count from a given one. -/
def start (firstId wall : Nat) : State where
  clock := 0
  wall := wall
  handles := []
  tasks := []
  tokens := 0
  cancelled := []
  calls := []
  fetches := []
  nextId := firstId

/-- The place of the session in the store that has an identifier. -/
def find? (s : State) (id : Uuid) : Option Nat :=
  s.handles.findIdx? fun h => h.listed && h.id == id

/-- The number of sessions in the store. -/
def active (s : State) : Nat := s.handles.countP Handle.listed

/-- Whether nobody holds the lock of a session. -/
def isFree (s : State) (h : Nat) : Bool := (s.handles[h]?).any fun x => x.holder.isNone

def onHandle (s : State) (h : Nat) (f : Handle → Handle) : State :=
  { s with handles := s.handles.modify h f }

def setTask (s : State) (t : Nat) (x : Task) : State := { s with tasks := s.tasks.set t x }

def addTask (s : State) (x : Task) : State := { s with tasks := s.tasks ++ [x] }

def cancelToken (s : State) (token : Nat) : State :=
  { s with cancelled := token :: s.cancelled }

def isCancelled (s : State) (token : Nat) : Bool := s.cancelled.contains token

end State

end SheetIntake.Service
