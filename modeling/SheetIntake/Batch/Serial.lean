import SheetIntake.Batch.Course

/-! # Batches row by row

Two ways to look at a batch without its window.  What becomes of a row is decided by the
call for that row alone, so the summary can be said at once.  And whatever wakes a batch
up, and whenever it is cancelled, it can only come to the moments that `Comes` describes. -/

namespace SheetIntake.Batch

variable {α : Type}

/-! ## Rows by themselves -/

/-- How a call ends within a time limit, whatever the other calls do. -/
def Behaviour.outcomeWithin (timeout : Nat) (b : Behaviour) : Outcome :=
  if b.delay.any (· ≤ timeout) then Outcome.ofAnswer b.answer
  else .failed RecordError.timeout.message

/-- A call fails within a time limit, and this is said about it. -/
inductive Behaviour.FailsWithin (timeout : Nat) (b : Behaviour) : String → Prop where
  /-- The answer takes too long, or never comes. -/
  | late (h : ∀ d, b.delay = some d → timeout < d) : FailsWithin timeout b "Request timed out"
  /-- The answer comes in time, and is an error. -/
  | refused {d : Nat} {e : RecordError} (prompt : b.delay = some d) (le : d ≤ timeout)
      (h : b.answer = .error e) : FailsWithin timeout b (truncated e.message)

/-- The result of every row by itself, where row `i` is the `i`-th call. -/
def ownResults (timeout : Nat) (backend : Backend) (payloads : List α) : List RowResult :=
  payloads.mapIdx fun i _ => RowResult.of i ((backend i).outcomeWithin timeout)

namespace Plan

/-- The same batch with one row under way at a time. -/
def serial (plan : Plan α) : Plan α :=
  { plan with policy := { plan.policy with concurrency := 1 } }

/-- Neither somebody outside nor a call ever cancels the batch. -/
structure NeverCancelled (plan : Plan α) : Prop where
  before : plan.cancelledBefore = false
  outside : plan.cancelAt = none
  calls : ∀ k, (plan.backend k).cancels = false

/-- The summary of a batch that nobody cancels. -/
def ownSummary (plan : Plan α) : Summary :=
  Summary.ofResults (ownResults plan.policy.timeout plan.backend plan.payloads)

end Plan

/-! ## Turns -/

/-- The call that an event has started. -/
def Event.started? : Event → Option Nat
  | started call => some call
  | answered _ => none

/-- One turn of a batch that is awake: it looks whether it has been cancelled, then whether all
rows are collected, then goes on and collects the first row under way if that is finished.
Polling is taking turns. -/
def Run.turn (p : Policy) (backend : Backend) (now : Nat) (r : Run α) (w : World) :
    Run α × World :=
  if r.verdict.isSome then (r, w)
  else if w.cancelled then (r.close (.error .cancelled), w)
  else if r.remaining = 0 then (r.close (.ok (Summary.ofResults r.results)), w)
  else
    let next := r.proceed p backend now w
    match next.1.collected? with
    | some (result, flight) =>
      ({ next.1 with flight, results := r.results ++ [result] }, next.2.collect)
    | none => next

/-- The world in which no call has been made and nothing is cancelled. -/
def World.fresh : World := { cancelled := false, calls := 0, events := [] }

/-- A batch and its world at some time. -/
structure Moment (α : Type) where
  now : Nat
  run : Run α
  world : World

namespace Moment

/-- A batch that has just been submitted. -/
def start (payloads : List α) : Moment α :=
  { now := 0, run := Run.start payloads, world := .fresh }

/-- The batch takes a turn. -/
def turn (p : Policy) (backend : Backend) (m : Moment α) : Moment α :=
  { m with
    run := (m.run.turn p backend m.now m.world).1
    world := (m.run.turn p backend m.now m.world).2 }

/-- The batch goes on until it has to wait. -/
def poll (p : Policy) (backend : Backend) (m : Moment α) : Moment α :=
  { m with
    run := (m.run.poll p backend m.now m.world).1
    world := (m.run.poll p backend m.now m.world).2 }

/-- Time has passed. -/
def waitUntil (m : Moment α) (later : Nat) : Moment α := { m with now := later }

/-- The batch is cancelled. -/
def cancel (m : Moment α) : Moment α := { m with world := { m.world with cancelled := true } }

end Moment

/-- One moment of a batch leads to another.  The batch may take its turns at any time and as
often as one likes, time may pass, and between any two turns it may be cancelled. -/
inductive Leads (p : Policy) (backend : Backend) : Moment α → Moment α → Prop where
  | refl (m : Moment α) : Leads p backend m m
  | turn {m m' : Moment α} (h : Leads p backend m m') : Leads p backend m (m'.turn p backend)
  | wait {m m' : Moment α} {later : Nat} (h : Leads p backend m m') (le : m'.now ≤ later) :
      Leads p backend m (m'.waitUntil later)
  | cancel {m m' : Moment α} (h : Leads p backend m m') : Leads p backend m m'.cancel

/-- A batch of payloads comes to a moment. -/
def Comes (p : Policy) (backend : Backend) (payloads : List α) (m : Moment α) : Prop :=
  Leads p backend (.start payloads) m

end SheetIntake.Batch
