import SheetIntake.Service.State

/-! # Steps of the service

A step is one of five things: a request arrives, a task goes on from where it stands to
the next place where it can be interrupted, a handler is given up, time passes, or the
store is swept.  A step that cannot happen changes nothing, so every list of labels is a
run. -/

namespace SheetIntake.Service

/-! ## Handlers -/

/-- Everything a step of a handler needs: the number of its task, and the handler. -/
structure Turn where
  task : Nat
  handler : Handler

namespace Turn

variable (x : Turn) (s : State)

/-- The handler stands somewhere else. -/
def goTo (stage : Stage) : State := s.setTask x.task (.handler { x.handler with stage })

def answer (r : Reply) : State := x.goTo s (.answered r)

def refuse (e : ServiceError) : State := x.answer s (.refused e)

def refuseImport (e : ImportError) : State := x.refuse s (.ofImport e)

/-- Looks a session up, which counts as using it, and goes on with it. -/
def lookUp (id : Uuid) (next : Nat → State → State) : State :=
  match s.find? id with
  | some h => next h (s.onHandle h fun x => { x with lastSeen := s.wall })
  | none => x.refuseImport s (.notFound "ImportSession" id.text)

/-- Reads an uploaded file and puts the new session into the store. -/
def upload (mode : Mode) (fileName : String) (content : Content) : State :=
  if content.isEmpty then x.refuseImport s .noRows
  else
    match (Session.new mode).selectFile fileName content with
    | (_, .error e) => x.refuseImport s e
    | (selected, .ok ()) =>
      match selected.decode with
      | (_, .error e) => x.refuseImport s e
      | (session, .ok _) =>
        let handle : Handle :=
          { id := ⟨s.nextId⟩, session, holder := none, progress := 0, token := s.tokens
            lastSeen := s.wall, listed := true }
        let next :=
          { s with
            handles := s.handles ++ [handle]
            tokens := s.tokens + 1
            nextId := s.nextId + 1 }
        x.goTo next (.viewing s.handles.length .created)

/-- Takes a session out of the store. -/
def delete (id : Uuid) : State :=
  match s.find? id with
  | some h => x.goTo (s.onHandle h fun x => { x with listed := false }) (.unlisted h)
  | none => x.refuseImport s (.notFound "ImportSession" id.text)

/-- The first step of a handler. -/
def arrive : State :=
  match x.handler.request with
  | .health => x.answer s (.health s.active)
  | .fields mode =>
    match Mode.parse mode with
    | .ok m => x.answer s (.fields m.fields)
    | .error e => x.refuse s (.badRequest e.message)
  | .upload mode fileName content => x.upload s mode fileName content
  | .get id => x.lookUp s id fun h s => x.goTo s (.viewing h .shown)
  | .delete id => x.delete s id
  | .chooseSheet id number => x.lookUp s id fun h s =>
      x.goTo (s.addTask (.worker { handle := h, sheet := number, result := none }))
        (.working h s.tasks.length)
  | .submit id organization .. =>
    if Text.isBlank organization then x.refuse s (.badRequest "organization_id is required")
    else x.lookUp s id fun h s => x.goTo s (.atLock h)
  | .replaceMapping id _ | .assign id .. | .cancel id | .reset id =>
    x.lookUp s id fun h s => x.goTo s (.atLock h)

/-- Carries out an action on a session and goes on if it succeeds. -/
def act {α : Type} (h : Nat) (action : Session → Session × Except ImportError α)
    (next : State → State) : State :=
  match s.handles[h]? with
  | none => s
  | some handle =>
    match action handle.session with
    | (_, .error e) => x.refuseImport s e
    | (session, .ok _) => next (s.onHandle h fun x => { x with session })

/-- What a handler does under the lock that its request is about. -/
def underLock (h : Nat) : State :=
  let view (s : State) := x.goTo s (.viewing h .shown)
  let stay (s : State) :=
    x.goTo (s.onHandle h fun y => { y with holder := some x.task }) (.inside h)
  match x.handler.request with
  | .replaceMapping _ mapping => x.act s h (·.replaceMapping mapping) view
  | .assign _ header target => x.act s h (·.assign header target) view
  | .reset _ =>
    x.act s h Session.reset fun s => view (s.onHandle h fun y => { y with progress := 0 })
  | .submit .. =>
    x.act s h Session.begin fun s => stay (s.onHandle h fun y => { y with progress := 0 })
  | .cancel _ => x.act s h Session.cancel stay
  | _ => s

/-- For whom a submission is made. -/
def scope (organization : String) (token : Option String) : Backend.Scope :=
  { organization := Text.trim organization, token }

/-- Arms the token of a submission, leaves the lock, and asks for the lookup table unless
there is one. -/
def arm (h : Nat) (organization : String) (caller : Option String)
    (table : Option (List LookupEntry)) (env : Surroundings) : State :=
  match s.handles[h]? with
  | none => s
  | some handle =>
    let token := s.tokens
    let armed :=
      { s with tokens := s.tokens + 1 }.onHandle h fun y => { y with token, holder := none }
    match table with
    | some entries => x.goTo armed (.building h token entries)
    | none =>
      let behaviour := env.tables s.fetches.length
      let fetch : Fetch := { scope := scope organization caller, mode := handle.session.mode }
      x.goTo { armed with fetches := s.fetches ++ [fetch] }
        (.fetching h token (behaviour.delay.map (s.clock + ·)) behaviour.answer)

/-- Cancels the token of a session, resets its progress and leaves the lock. -/
def disarm (h : Nat) : State :=
  match s.handles[h]? with
  | none => s
  | some handle =>
    x.goTo ((s.cancelToken handle.token).onHandle h fun y => { y with progress := 0, holder := none })
      (.viewing h .shown)

/-- What a handler does when it goes on behind the lock. -/
def leaveLock (h : Nat) (env : Surroundings) : State :=
  match x.handler.request with
  | .submit _ organization caller table => x.arm s h organization caller table env
  | .cancel _ => x.disarm s h
  | _ => s

/-- Builds the payloads and starts the submission in the background. -/
def build (h token : Nat) (table : List LookupEntry) : State :=
  match x.handler.request, s.handles[h]? with
  | .submit _ organization caller _, some handle =>
    match handle.session.payloads table with
    | .error e => x.refuseImport s e
    | .ok payloads =>
      let submission : Submission :=
        { handle := h, token, scope := scope organization caller
          run := Batch.Run.start payloads, finished := false }
      x.goTo (s.addTask (.submission submission)) (.viewing h .accepted)
  | _, _ => s

/-- Takes the submission back, if it is still there, and reports the error. -/
def abort (h : Nat) (e : RecordError) : State :=
  match s.handles[h]? with
  | none => s
  | some handle =>
    x.refuse (s.onHandle h fun y => { y with session := handle.session.abort.1 }) (.backend e)

/-- One step of a handler. -/
def step (env : Surroundings) : State :=
  match x.handler.stage with
  | .arrived => x.arrive s
  | .atLock h => if s.isFree h then x.underLock s h else s
  | .inside h => x.leaveLock s h env
  | .fetching h token due answer =>
    if due.any (· ≤ s.clock) then
      match answer with
      | .ok table => x.goTo s (.building h token table)
      | .error e => x.goTo s (.aborting h e)
    else s
  | .aborting h e => if s.isFree h then x.abort s h e else s
  | .building h token table => if s.isFree h then x.build s h token table else s
  | .working h worker =>
    match s.tasks[worker]? with
    | some (.worker { result := some (.ok _), .. }) => x.goTo s (.viewing h .shown)
    | some (.worker { result := some (.error e), .. }) => x.refuseImport s e
    | _ => s
  | .viewing h o =>
    match s.handles[h]? with
    | some handle => if s.isFree h then x.answer s (.view o handle.view) else s
    | none => s
  | .unlisted h =>
    match s.handles[h]? with
    | some handle => x.answer (s.cancelToken handle.token) .removed
    | none => s
  | .answered _ | .dropped => s

/-- Gives a handler up wherever it waits; a lock that it holds is free again. -/
def drop : State :=
  match x.handler.stage with
  | .answered _ | .dropped => s
  | .inside h => x.goTo (s.onHandle h fun y => { y with holder := none }) .dropped
  | _ => x.goTo s .dropped

end Turn

/-! ## Workers and submissions -/

/-- A worker reads the sheet under the lock. -/
def stepWorker (s : State) (t : Nat) (w : Worker) : State :=
  match w.result, s.handles[w.handle]? with
  | none, some handle =>
    if s.isFree w.handle then
      let (session, result) := handle.session.chooseSheet w.sheet
      (s.onHandle w.handle fun y => { y with session }).setTask t
        (.worker { w with result := some result })
    else s
  | _, _ => s

/-- The calls that a batch makes while it goes from one state to another. -/
def newCalls (b : Submission) (next : Batch.Run Payload) : List Call :=
  let made := b.run.queue.take (b.run.queue.length - next.queue.length)
  made.mapIdx fun i payload =>
    { handle := b.handle, row := b.run.started + i, scope := b.scope, payload }

/-- The batch of a submission goes on until it has to wait. -/
def pollSubmission (env : Surroundings) (s : State) (t : Nat) (b : Submission) : State :=
  let world : Batch.World :=
    { cancelled := s.isCancelled b.token, calls := s.calls.length, events := [] }
  let (run, _) := b.run.poll env.policy env.backend.quiet s.clock world
  let collected := run.results.length - b.run.results.length
  let next := s.onHandle b.handle fun y => { y with progress := y.progress + collected }
  { next with calls := s.calls ++ newCalls b run }.setTask t (.submission { b with run })

/-- One step of a submission.  The summary of a batch is recorded under the lock, unless the
session is no longer being submitted. -/
def stepSubmission (env : Surroundings) (s : State) (t : Nat) (b : Submission) : State :=
  if b.finished then s
  else match b.run.verdict with
    | none => pollSubmission env s t b
    | some (.error _) => s.setTask t (.submission { b with finished := true })
    | some (.ok summary) =>
      if s.isFree b.handle then
        (s.onHandle b.handle fun y => { y with session := (y.session.complete summary).1 }).setTask
          t (.submission { b with finished := true })
      else s

/-! ## The store -/

/-- The largest number of milliseconds that times can differ by. -/
def longestIdle : Nat := Nat.pow 2 63 - 1

/-- Sessions not used since this moment are idle. -/
def cutoff (wall maxIdle : Nat) : Int := max (-Int.pow 2 63) ((wall : Int) - min maxIdle longestIdle)

/-- Whether a sweep takes a session out of the store. -/
def Handle.isExpired (wall maxIdle : Nat) (h : Handle) : Bool :=
  h.listed && h.lastSeen ≤ cutoff wall maxIdle && !h.isBusy

/-- Takes the idle sessions out of the store, but none that is submitting or locked. -/
def State.sweep (s : State) (maxIdle : Nat) : State :=
  { s with
    handles := s.handles.map fun h => { h with listed := h.listed && !h.isExpired s.wall maxIdle } }

/-! ## Labels -/

/-- What may happen next. -/
inductive Label where
  | arrive (r : Request)
  /-- A task goes on. -/
  | run (task : Nat)
  /-- A handler is given up. -/
  | drop (task : Nat)
  /-- Time passes, on the clock and on the wall. -/
  | pass (ms wallMs : Nat)
  /-- The sessions that have been idle for so many milliseconds go. -/
  | sweep (maxIdle : Nat)

/-- One step. -/
def step (env : Surroundings) (s : State) : Label → State
  | .arrive request => s.addTask (.handler { request, since := s.clock, stage := .arrived })
  | .run t =>
    match s.tasks[t]? with
    | some (.handler handler) => Turn.step ⟨t, handler⟩ s env
    | some (.worker w) => stepWorker s t w
    | some (.submission b) => stepSubmission env s t b
    | none => s
  | .drop t =>
    match s.tasks[t]? with
    | some (.handler handler) => Turn.drop ⟨t, handler⟩ s
    | _ => s
  | .pass ms wallMs => { s with clock := s.clock + ms, wall := s.wall + wallMs }
  | .sweep maxIdle => s.sweep maxIdle

/-- The state after a list of labels. -/
def State.after (env : Surroundings) (s : State) (labels : List Label) : State :=
  labels.foldl (step env) s

/-- A state that some run leads to. -/
def Reachable (env : Surroundings) (s : State) : Prop :=
  ∃ firstId wall labels, s = (State.start firstId wall).after env labels

end SheetIntake.Service
