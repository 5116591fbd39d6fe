import SheetIntake.Service.Step

/-! # Running the service

One way to choose the steps.  A request that somebody waits for goes on until it is
answered or waits for the clock itself; after it, everything in the background goes on as
far as it can.  Time passes from one event to the next: an answer, a deadline, the end of
a request's time, or a sweep of the expiry. -/

namespace SheetIntake.Service

/-- A sweep that is repeated. -/
structure Expiry where
  maxIdle : Nat
  every : Nat
  /-- When the next sweep is due. -/
  next : Nat

/-- The service and what goes on around it. -/
structure Schedule where
  state : State
  expiry : Option Expiry
  /-- The requests in the background that nobody has waited for yet, oldest first. -/
  waiting : List Nat

namespace Schedule

/-- A schedule over a service without sessions. -/
def start (firstId : Nat) : Schedule :=
  { state := State.start firstId 0, expiry := none, waiting := [] }

variable (env : Surroundings)

/-! ## Going on -/

/-- The stage of a handler. -/
def stage? (s : State) (t : Nat) : Option Stage :=
  match s.tasks[t]? with
  | some (.handler x) => some x.stage
  | _ => none

/-- A task goes on; if it waits for a worker, that one goes on first. -/
def forward (s : State) (t : Nat) : State :=
  match stage? s t with
  | some (.working _ worker) => (s.after env [.run worker, .run t])
  | _ => step env s (.run t)

/-- The most steps that a task takes without waiting for the clock. -/
def stepBound : Nat := 10

/-- A task goes on as far as it can. -/
def drive (s : State) (t : Nat) : State :=
  (List.range stepBound).foldl (fun s _ => forward env s t) s

/-- All tasks go on, in order. -/
def driveAll (s : State) : State := (List.range s.tasks.length).foldl (drive env) s

/-- Everything goes on as far as it can, the tasks that have been started meanwhile
included. -/
def settle (s : State) : State := driveAll env (driveAll env s)

/-! ## Time -/

/-- When a request is given up. -/
def deadline (x : Handler) : Nat := x.since + env.requestTimeout

/-- The times at which something happens to a task. -/
def taskEvents : Task → List Nat
  | .handler x =>
    if x.stage.isOver then []
    else
      let due := match x.stage with
        | .fetching _ _ due _ => due.toList
        | _ => []
      deadline env x :: due
  | .worker _ => []
  | .submission b => if b.finished then [] else b.run.nextEvent.toList

/-- The time of the next event. -/
def nextEvent (c : Schedule) : Option Nat :=
  (c.state.tasks.flatMap (taskEvents env) ++ (c.expiry.map Expiry.next).toList).min?

/-- Gives up a request whose time is over. -/
def dropIfOverdue (s : State) (t : Nat) : State :=
  match s.tasks[t]? with
  | some (.handler x) => if deadline env x ≤ s.clock then step env s (.drop t) else s
  | _ => s

/-- Gives up all requests whose time is over. -/
def dropOverdue (s : State) : State :=
  (List.range s.tasks.length).foldl (dropIfOverdue env) s

/-- Sweeps the store if that is due. -/
def sweepDue (c : Schedule) : Schedule :=
  match c.expiry with
  | some e =>
    if e.next ≤ c.state.clock then
      { c with
        state := step env c.state (.sweep e.maxIdle)
        expiry := some { e with next := e.next + e.every } }
    else c
  | none => c

/-- The clock moves on to a time, and everything that is due then happens. -/
def elapseTo (c : Schedule) (time : Nat) : Schedule :=
  let passed := step env c.state (.pass (time - c.state.clock) 0)
  sweepDue env { c with state := settle env (dropOverdue env passed) }

/-- Time passes from event to event, at most `steps` times, up to a time. -/
def passTo (time : Nat) : Nat → Schedule → Schedule
  | 0, c => elapseTo env c time
  | steps + 1, c =>
    match nextEvent env c with
    | some next => if next ≤ time then passTo time steps (elapseTo env c next) else elapseTo env c time
    | none => elapseTo env c time

/-- Time passes.  Events at one time happen together, so there are no more of them than
milliseconds. -/
def pass (ms : Nat) (c : Schedule) : Schedule := passTo env (c.state.clock + ms) (ms + 1) c

/-- Time passes until a handler is answered or given up. -/
def awaitHandler (t : Nat) : Nat → Schedule → Schedule
  | 0, c => c
  | steps + 1, c =>
    match stage? c.state t with
    | some stage =>
      if stage.isOver then c
      else match nextEvent env c with
        | some next => awaitHandler t steps (elapseTo env c next)
        | none => c
    | none => c

/-! ## What can be asked for -/

/-- How a request ends: with a reply, or without one. -/
def outcome? (s : State) (t : Nat) : Option Reply :=
  match stage? s t with
  | some (.answered r) => some r
  | _ => none

/-- Lets the background go on. -/
def settled (c : Schedule) : Schedule := { c with state := settle env c.state }

/-- Waits for a handler, which takes no longer than a request may. -/
def finish (t : Nat) (c : Schedule) : Schedule × Option Reply :=
  let c := awaitHandler env t (env.requestTimeout + 1) c
  (settled env c, outcome? c.state t)

/-- A request, and its reply if it gets one in time. -/
def request (r : Request) (c : Schedule) : Schedule × Option Reply :=
  let t := c.state.tasks.length
  finish env t { c with state := drive env (step env c.state (.arrive r)) t }

/-- A request that nobody waits for yet. -/
def begin (r : Request) (c : Schedule) : Schedule :=
  settled env
    { c with
      state := step env c.state (.arrive r)
      waiting := c.waiting ++ [c.state.tasks.length] }

/-- Waits for the oldest request in the background. -/
def join (c : Schedule) : Schedule × Option Reply :=
  match c.waiting with
  | [] => (c, none)
  | t :: rest => finish env t { c with waiting := rest }

/-- Sweeps the store, and says how many sessions went. -/
def sweep (maxIdle : Nat) (c : Schedule) : Schedule × Nat :=
  let state := step env c.state (.sweep maxIdle)
  (settled env { c with state }, c.state.active - state.active)

/-- Sweeps the store now and then again and again; not at all if there is no time between
two sweeps. -/
def startExpiry (maxIdle every : Nat) (c : Schedule) : Schedule :=
  if every = 0 then c
  else sweepDue env { c with expiry := some { maxIdle, every, next := c.state.clock } }

def stopExpiry (c : Schedule) : Schedule := { c with expiry := none }

end Schedule

end SheetIntake.Service
