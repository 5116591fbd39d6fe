import SheetIntake.Batch.Run

/-! # The course of a batch in time

A batch is polled, and then time passes to the next thing that happens: an answer, a
deadline, or the moment at which the batch is cancelled from outside.  Every such
step but the cancelling finishes a row, so their number is bounded by that of the
rows. -/

namespace SheetIntake.Batch

variable {α : Type}

/-- A batch as it is submitted at time 0. -/
structure Plan (α : Type) where
  policy : Policy
  backend : Backend
  payloads : List α
  cancelledBefore : Bool
  /-- When the batch is cancelled from outside. -/
  cancelAt : Option Nat

namespace Plan

/-- The earlier of two times, one of which may never come. -/
def earlier : Option Nat → Option Nat → Option Nat
  | some a, some b => some (min a b)
  | some a, none => some a
  | none, b => b

/-- The time of the next thing that happens. -/
def nextTime (cancelAt : Option Nat) (r : Run α) (w : World) : Option Nat :=
  earlier r.nextEvent (if w.cancelled then none else cancelAt)

/-- The batch is cancelled if the moment for it has come. -/
def cancelBy (cancelAt : Option Nat) (now : Nat) (w : World) : World :=
  { w with cancelled := w.cancelled || cancelAt.any (· ≤ now) }

/-- Polls, and lets time pass at most `steps` times. -/
def follow (plan : Plan α) : Nat → Nat → Run α → World → Run α × World
  | 0, now, r, w => r.poll plan.policy plan.backend now w
  | steps + 1, now, r, w =>
    let (r, w) := r.poll plan.policy plan.backend now w
    if r.verdict.isSome then (r, w)
    else match nextTime plan.cancelAt r w with
      | none => (r, w)
      | some t => plan.follow steps t r (cancelBy plan.cancelAt t w)

/-- The state before anything has happened. -/
def world (plan : Plan α) : World :=
  { cancelled := plan.cancelledBefore, calls := 0, events := [] }

/-- How a batch ends, and what could be observed of it. -/
def course (plan : Plan α) : Run α × World :=
  plan.follow (plan.payloads.length + 1) 0 (Run.start plan.payloads) plan.world

end Plan

end SheetIntake.Batch
