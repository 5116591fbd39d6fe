import SheetIntake.Batch.Result
import SheetIntake.ImportError

/-! # Submitting a batch

The rows of a batch are sent to the backend one call each, in row order and not
more than a fixed number at a time.  A row counts as under way from its call until
its result has been collected, and results are collected in row order: a row that is
finished keeps its place as long as an earlier one is not.  A row fails when its call
is refused or takes too long; no failure stops the rows after it.  Cancelling ends
the batch at once, and what is still under way is dropped.

`poll` is what a batch does whenever it wakes up: it goes on until it has to wait
for an answer. -/

namespace SheetIntake.Batch

/-! ## The backend -/

/-- What the backend does with one call. -/
structure Behaviour where
  /-- The call has the batch cancelled while it is made. -/
  cancels : Bool
  /-- The time until the answer; absent when there will never be one. -/
  delay : Option Nat
  answer : Except RecordError (Option String)

/-- The behaviour for every call, counted from 0. -/
abbrev Backend := Nat → Behaviour

/-- A backend whose calls cancel nothing. -/
def Backend.quiet (backend : Backend) : Backend := fun k => { backend k with cancels := false }

/-- How a batch is submitted. -/
structure Policy where
  concurrency : Nat
  /-- The time after which a call counts as failed. -/
  timeout : Nat

/-- The number of rows that may be under way, one at least. -/
def Policy.width (p : Policy) : Nat := max 1 p.concurrency

/-- What can be observed of the calls of a batch. -/
inductive Event where
  | started (call : Nat)
  | answered (call : Nat)
deriving DecidableEq

/-! ## Rows under way -/

/-- A row whose call has been made. -/
structure Attempt where
  row : Nat
  call : Nat
  /-- When the answer comes, if it ever does. -/
  due : Option Nat
  /-- When the call counts as failed. -/
  deadline : Nat
  answer : Outcome
  /-- How it ended, once it has. -/
  outcome : Option Outcome
deriving DecidableEq

namespace Attempt

/-- Whether the answer has come by a given time. -/
def isDue (now : Nat) (a : Attempt) : Bool := a.due.any (· ≤ now)

/-- Whether the attempt ends with an answer at a given time. -/
def isAnswered (now : Nat) (a : Attempt) : Bool := a.outcome.isNone && a.isDue now

/-- The attempt at a given time.  An answer that comes with the deadline counts. -/
def settle (now : Nat) (a : Attempt) : Attempt :=
  if a.isAnswered now then { a with outcome := some a.answer }
  else if a.outcome.isNone && a.deadline ≤ now then
    { a with outcome := some (.failed RecordError.timeout.message) }
  else a

/-- The next time at which something happens to the attempt. -/
def nextEvent (a : Attempt) : Option Nat :=
  if a.outcome.isSome then none else some (min (a.due.getD a.deadline) a.deadline)

/-- A call that is made now, and may end at once. -/
def start (p : Policy) (now row call : Nat) (b : Behaviour) : Attempt :=
  settle now
    { row, call
      due := b.delay.map (now + ·)
      deadline := now + p.timeout
      answer := Outcome.ofAnswer b.answer
      outcome := none }

end Attempt

/-- The events of the attempts that end with an answer at a given time. -/
def answers (now : Nat) (flight : List Attempt) : List Event :=
  (flight.filter (Attempt.isAnswered now)).map fun a => .answered a.call

/-- Whether the first row under way is finished. -/
def headFinished (flight : List Attempt) : Bool := flight.head?.any fun a => a.outcome.isSome

/-! ## States -/

/-- What a batch shares with its surroundings. -/
structure World where
  cancelled : Bool
  /-- The number of calls that the backend has had. -/
  calls : Nat
  events : List Event
  /-- The number of results that have been collected, for whoever watches the batch. -/
  progress : Nat := 0

/-- A batch of payloads. -/
structure Run (α : Type) where
  /-- The payloads of the rows not yet started. -/
  queue : List α
  /-- The rows under way, in row order. -/
  flight : List Attempt
  /-- The collected results, in row order. -/
  results : List RowResult
  /-- How the batch ended, once it has. -/
  verdict : Option (Except ImportError Summary)

variable {α : Type}

namespace Run

/-- A batch that has not begun. -/
def start (payloads : List α) : Run α :=
  { queue := payloads, flight := [], results := [], verdict := none }

/-- The number of rows that have been started. -/
def started (r : Run α) : Nat := r.results.length + r.flight.length

end Run

/-- A call is made. -/
def World.call (w : World) (b : Behaviour) : World where
  cancelled := w.cancelled || b.cancels
  calls := w.calls + 1
  events := w.events ++ .started w.calls ::
    (if b.delay = some 0 then [.answered w.calls] else [])
  progress := w.progress

/-- A result is collected. -/
def World.collect (w : World) : World := { w with progress := w.progress + 1 }

@[simp] theorem World.cancelled_collect (w : World) : w.collect.cancelled = w.cancelled := rfl

@[simp] theorem World.calls_collect (w : World) : w.collect.calls = w.calls := rfl

@[simp] theorem World.events_collect (w : World) : w.collect.events = w.events := rfl

@[simp] theorem World.progress_collect (w : World) : w.collect.progress = w.progress + 1 := rfl

/-! ## Polling -/

/-- Starts rows while there is room for them and the first row under way is not finished.
`row` is the first row of the queue. -/
def startRows (p : Policy) (backend : Backend) (now row : Nat) (flight : List Attempt)
    (w : World) : List α → List α × List Attempt × World
  | [] => ([], flight, w)
  | q :: qs =>
    if p.width ≤ flight.length || headFinished flight then (q :: qs, flight, w)
    else
      let b := backend w.calls
      startRows p backend now (row + 1) (flight ++ [Attempt.start p now row w.calls b])
        (w.call b) qs

namespace Run

/-- Takes note of the answers and the deadlines that have come, and starts rows. -/
def proceed (p : Policy) (backend : Backend) (now : Nat) (r : Run α) (w : World) :
    Run α × World :=
  let w := { w with events := w.events ++ answers now r.flight }
  let (queue, flight, w) :=
    startRows p backend now r.started (r.flight.map (Attempt.settle now)) w r.queue
  ({ r with queue, flight }, w)

/-- The first row under way as a result, and the rows behind it, if that row is finished. -/
def collected? (r : Run α) : Option (RowResult × List Attempt) :=
  match r.flight with
  | a :: rest => a.outcome.map fun o => (RowResult.of a.row o, rest)
  | [] => none

/-- The number of rows that are not collected. -/
def remaining (r : Run α) : Nat := r.queue.length + r.flight.length

/-- The batch that has ended. -/
def close (r : Run α) (verdict : Except ImportError Summary) : Run α :=
  { r with verdict := some verdict }

theorem length_startRows (p : Policy) (backend : Backend) (now row : Nat)
    (flight : List Attempt) (w : World) (queue : List α) :
    (startRows p backend now row flight w queue).1.length +
      (startRows p backend now row flight w queue).2.1.length = queue.length + flight.length := by
  induction queue generalizing row flight w with
  | nil => simp [startRows]
  | cons q qs ih =>
    simp only [startRows]
    split
    · rfl
    · simp only [ih, List.length_append, List.length_cons, List.length_nil]
      omega

theorem remaining_proceed (p : Policy) (backend : Backend) (now : Nat) (r : Run α) (w : World) :
    (r.proceed p backend now w).1.remaining = r.remaining := by
  simp [proceed, remaining, length_startRows]

theorem length_of_collected? {r : Run α} {x : RowResult × List Attempt}
    (h : r.collected? = some x) : x.2.length + 1 = r.flight.length := by
  unfold collected? at h
  split at h
  · obtain ⟨o, _, rfl⟩ := Option.map_eq_some_iff.1 h
    simp [*]
  · cases h

/-- Goes on until the batch has ended or has to wait.  Cancelling is looked for before every
row that is collected and at the end. -/
def poll (p : Policy) (backend : Backend) (now : Nat) (r : Run α) (w : World) : Run α × World :=
  if r.verdict.isSome then (r, w)
  else if w.cancelled then (r.close (.error .cancelled), w)
  else if r.remaining = 0 then (r.close (.ok (Summary.ofResults r.results)), w)
  else
    match _h : (r.proceed p backend now w).1.collected? with
    | some (result, flight) =>
      poll p backend now
        { (r.proceed p backend now w).1 with flight, results := r.results ++ [result] }
        (r.proceed p backend now w).2.collect
    | none =>
      let (r, w) := r.proceed p backend now w
      if w.cancelled then (r.close (.error .cancelled), w) else (r, w)
termination_by r.remaining
decreasing_by
  have h₁ := length_of_collected? _h
  have h₂ := remaining_proceed p backend now r w
  simp only [remaining] at h₁ h₂ ⊢
  omega

/-- The next time at which something happens to a row under way. -/
def nextEvent (r : Run α) : Option Nat := (r.flight.filterMap Attempt.nextEvent).min?

end Run

end SheetIntake.Batch
