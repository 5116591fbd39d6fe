import Mathlib.Logic.Relation
import SheetIntake.Batch.Serial

/-! # The small steps of a batch

    When a batch is polled it goes on until it has to wait.  `Tick` takes this course
    apart into its smallest steps: an answer or a deadline is noted, a row is started,
    a finished row is collected, or the batch ends.  `poll_ticks` says that polling is
    a sequence of such steps, so what every tick keeps, every poll keeps (`poll_keeps`).

    The first such property is `Onward`: rows are started in the order of the queue,
    one call each, and calls are counted without a gap. -/

namespace SheetIntake.Batch

variable {α : Type} {p : Policy} {backend : Backend} {now : Nat}

/-! ## How many rows have been started -/

theorem started_settle (r : Run α) (now : Nat) :
    Run.started { r with flight := r.flight.map (Attempt.settle now) } = r.started := by
  simp [Run.started]

theorem started_start (r : Run α) (qs : List α) (a : Attempt) :
    Run.started { r with queue := qs, flight := r.flight ++ [a] } = r.started + 1 := by
  simp only [Run.started, List.length_append, List.length_singleton]
  omega

/-- Collecting moves a row from one place to another. -/
theorem started_collect {r : Run α} {a : Attempt} {rest : List Attempt}
    (first : r.flight = a :: rest) (x : RowResult) :
    Run.started { r with flight := rest, results := r.results ++ [x] } = r.started := by
  simp only [Run.started, first, List.length_append, List.length_cons, List.length_nil]
  omega

/-! ## Ticks -/

/-- One small step of a batch that is polled at the time `now`. -/
inductive Tick (p : Policy) (backend : Backend) (now : Nat) :
    Run α × World → Run α × World → Prop where
  /-- The answers and the deadlines that have come are noted. -/
  | note {r : Run α} {w : World} (running : r.verdict = none) :
      Tick p backend now (r, w)
        ({ r with flight := r.flight.map (Attempt.settle now) },
          { w with events := w.events ++ answers now r.flight })
  /-- The first row of the queue is started. -/
  | start {r : Run α} {w : World} {q : α} {qs : List α} (running : r.verdict = none)
      (next : r.queue = q :: qs) (room : r.flight.length < p.width)
      (unfinished : headFinished r.flight = false) :
      Tick p backend now (r, w)
        ({ r with
            queue := qs
            flight := r.flight ++ [Attempt.start p now r.started w.calls (backend w.calls)] },
          w.call (backend w.calls))
  /-- The first row under way is finished and becomes a result. -/
  | collect {r : Run α} {w : World} {a : Attempt} {rest : List Attempt} {o : Outcome}
      (running : r.verdict = none) (first : r.flight = a :: rest) (ended : a.outcome = some o) :
      Tick p backend now (r, w)
        ({ r with flight := rest, results := r.results ++ [RowResult.of a.row o] }, w.collect)
  /-- The batch has been cancelled. -/
  | cancel {r : Run α} {w : World} (running : r.verdict = none) (cancelled : w.cancelled = true) :
      Tick p backend now (r, w) (r.close (.error .cancelled), w)
  /-- All rows are collected. -/
  | finish {r : Run α} {w : World} (running : r.verdict = none)
      (untouched : w.cancelled = false) (done : r.remaining = 0) :
      Tick p backend now (r, w) (r.close (.ok (Summary.ofResults r.results)), w)

/-- Any number of ticks at one time. -/
abbrev Ticks (p : Policy) (backend : Backend) (now : Nat) : Run α × World → Run α × World → Prop :=
  Relation.ReflTransGen (Tick p backend now)

theorem startRows_ticks (p : Policy) (backend : Backend) (now : Nat) (r : Run α) (w : World)
    (running : r.verdict = none) :
    Ticks p backend now (r, w)
      ({ r with
          queue := (startRows p backend now r.started r.flight w r.queue).1
          flight := (startRows p backend now r.started r.flight w r.queue).2.1 },
        (startRows p backend now r.started r.flight w r.queue).2.2) := by
  -- The queue shrinks with every row, while the rows under way and the calls grow, so the
  -- induction is on the queue and the rest of the batch is general.
  induction hq : r.queue generalizing r w with
  | nil =>
    have hr : { r with queue := [], flight := r.flight } = r := by rw [← hq]
    simp only [startRows, hr]
    exact .refl
  | cons q qs ih =>
    simp only [startRows]
    split
    · have hr : { r with queue := q :: qs, flight := r.flight } = r := by rw [← hq]
      simp only [hr]
      exact .refl
    · -- There is room for the row, and the first row under way is not finished.
      rename_i hstop
      simp only [Bool.or_eq_true, decide_eq_true_eq, not_or, Nat.not_le, Bool.not_eq_true] at hstop
      refine .head (Tick.start running hq hstop.1 hstop.2) ?_
      rw [← started_start r qs (Attempt.start p now r.started w.calls (backend w.calls))]
      exact ih _ _ running rfl

/-- Once it is noted what has come, rows are started. -/
theorem noted_ticks (p : Policy) (backend : Backend) (now : Nat) (r : Run α) (w : World)
    (running : r.verdict = none) :
    Ticks p backend now
      ({ r with flight := r.flight.map (Attempt.settle now) },
        { w with events := w.events ++ answers now r.flight })
      (r.proceed p backend now w) := by
  have h := startRows_ticks p backend now
    { r with flight := r.flight.map (Attempt.settle now) }
    { w with events := w.events ++ answers now r.flight } running
  rw [started_settle] at h
  exact h

theorem proceed_ticks (p : Policy) (backend : Backend) (now : Nat) (r : Run α) (w : World)
    (running : r.verdict = none) :
    Ticks p backend now (r, w) (r.proceed p backend now w) :=
  .head (Tick.note running) (noted_ticks p backend now r w running)

@[simp] theorem verdict_proceed (p : Policy) (backend : Backend) (now : Nat) (r : Run α)
    (w : World) :
    (r.proceed p backend now w).1.verdict = r.verdict := rfl

@[simp] theorem results_proceed (p : Policy) (backend : Backend) (now : Nat) (r : Run α)
    (w : World) :
    (r.proceed p backend now w).1.results = r.results := rfl

theorem collected?_eq_some {r : Run α} {x : RowResult × List Attempt} (h : r.collected? = some x) :
    ∃ a o, r.flight = a :: x.2 ∧ a.outcome = some o ∧ x.1 = RowResult.of a.row o := by
  unfold Run.collected? at h
  split at h
  · rename_i a rest hflight
    obtain ⟨o, ho, rfl⟩ := Option.map_eq_some_iff.1 h
    exact ⟨a, o, hflight, ho, rfl⟩
  · cases h

/-- Polling is a sequence of ticks. -/
theorem poll_ticks (p : Policy) (backend : Backend) (now : Nat) (r : Run α) (w : World) :
    Ticks p backend now (r, w) (r.poll p backend now w) := by
  refine Run.poll.induct_unfolding p backend now (fun r w x => Ticks p backend now (r, w) x)
    ?ended ?cancelled ?done ?collected ?overtaken ?waiting r w
  case ended => exact fun r w hv => .refl
  case cancelled => exact fun r w hv hc => .single (.cancel (by simpa using hv) hc)
  case done =>
    exact fun r w hv hc hr => .single (.finish (by simpa using hv) (by simpa using hc) hr)
  case collected =>
    -- Collecting makes room for another row, so it all begins again.
    intro r w hv _ _ result flight hcol ih
    have running : r.verdict = none := by simpa using hv
    obtain ⟨a, o, hflight, hended, hresult⟩ := collected?_eq_some hcol
    simp only at hflight hresult
    refine (proceed_ticks p backend now r w running).trans (.head ?_ ih)
    rw [hresult, ← results_proceed p backend now r w]
    exact .collect running hflight hended
  case overtaken =>
    -- A call that has just been made has had the batch cancelled.
    intro r w hv _ _ _ r' w' hp hc
    have running : r.verdict = none := by simpa using hv
    have hticks := proceed_ticks p backend now r w running
    have hv' := verdict_proceed p backend now r w
    rw [hp] at hticks hv'
    exact hticks.tail (.cancel (hv'.trans running) hc)
  case waiting =>
    intro r w hv _ _ _ r' w' hp _
    have running : r.verdict = none := by simpa using hv
    have hticks := proceed_ticks p backend now r w running
    rw [hp] at hticks
    exact hticks

/-- What every tick keeps, any number of ticks keep. -/
theorem Ticks.keep {I : Run α × World → Prop} {x y : Run α × World}
    (ticks : Ticks p backend now x y) (keeps : ∀ {x y}, Tick p backend now x y → I x → I y)
    (h : I x) : I y := by
  induction ticks with
  | refl => exact h
  | tail _ tick ih => exact keeps tick ih

/-- What every tick keeps, every poll keeps. -/
theorem poll_keeps {I : Run α × World → Prop} (p : Policy) (backend : Backend) (now : Nat)
    (keeps : ∀ {x y}, Tick p backend now x y → I x → I y) (r : Run α) (w : World) (h : I (r, w)) :
    I (r.poll p backend now w) :=
  (poll_ticks p backend now r w).keep keeps h

/-! ## Batches that are cancelled -/

/-- A batch that is cancelled before it is polled only ends. -/
theorem poll_of_cancelled {r : Run α} {w : World} (running : r.verdict = none)
    (h : w.cancelled = true) :
    r.poll p backend now w = (r.close (.error .cancelled), w) := by
  rw [Run.poll, if_neg (by simp [running]), if_pos h]

/-! ## Going onward -/

/-- From `x` to `y` the batch has only gone on: it has taken rows off the front of the queue,
has made one call for each, and has lost none. -/
structure Onward (x y : Run α × World) : Prop where
  started_le : x.1.started ≤ y.1.started
  queue : y.1.queue = x.1.queue.drop (y.1.started - x.1.started)
  length : y.1.started + y.1.queue.length = x.1.started + x.1.queue.length
  calls : y.2.calls + x.1.started = x.2.calls + y.1.started
  results : x.1.results <+: y.1.results

theorem Onward.refl (x : Run α × World) : Onward x x :=
  ⟨Nat.le_refl _, by simp, rfl, rfl, List.prefix_rfl⟩

/-- Only starting a row changes how many have been started. -/
theorem onward_tick {x y z : Run α × World} (tick : Tick p backend now y z) (h : Onward x y) :
    Onward x z := by
  obtain ⟨hle, hqueue, hlength, hcalls, hresults⟩ := h
  cases tick with
  | note running =>
    constructor <;> simpa [Run.started] using ‹_›
  | @start r w q qs running next room unfinished =>
    have hstarted :=
      started_start r qs (Attempt.start p now r.started w.calls (backend w.calls))
    constructor
    · simp only [hstarted]
      exact Nat.le_succ_of_le hle
    · -- The row that has been started was the first of what was left of the queue.
      simp only [hstarted]
      have htail : qs = r.queue.drop 1 := by simp [next]
      have hqueue' : r.queue = x.1.queue.drop (r.started - x.1.started) := hqueue
      have hle' : x.1.started ≤ r.started := hle
      rw [htail, hqueue', List.drop_drop]
      congr 1
      omega
    · simp only [hstarted]
      have : r.started + r.queue.length = x.1.started + x.1.queue.length := hlength
      rw [next, List.length_cons] at this
      omega
    · simp only [hstarted, World.call]
      have : w.calls + x.1.started = x.2.calls + r.started := hcalls
      omega
    · exact hresults
  | @collect r w a rest o running first ended =>
    have hstarted := started_collect first (RowResult.of a.row o)
    constructor
    · simpa only [hstarted] using hle
    · simpa only [hstarted] using hqueue
    · simpa only [hstarted] using hlength
    · simpa only [hstarted, World.calls_collect] using hcalls
    · exact hresults.trans (List.prefix_append _ _)
  | cancel running cancelled => exact ⟨hle, hqueue, hlength, hcalls, hresults⟩
  | finish running untouched done => exact ⟨hle, hqueue, hlength, hcalls, hresults⟩

theorem poll_onward (p : Policy) (backend : Backend) (now : Nat) (r : Run α) (w : World) :
    Onward (r, w) (r.poll p backend now w) :=
  poll_keeps p backend now onward_tick r w (.refl _)

/-! ## Who has cancelled a batch -/

/-- A batch that has ended badly has been cancelled. -/
def Blamed (x : Run α × World) : Prop :=
  ∀ e, x.1.verdict = some (.error e) → e = .cancelled ∧ x.2.cancelled = true

theorem blamed_tick {x y : Run α × World} (tick : Tick p backend now x y) (_ : Blamed x) :
    Blamed y := by
  intro e he
  cases tick with
  | note running => simp [running] at he
  | start running => simp [running] at he
  | collect running => simp [running] at he
  | cancel running cancelled =>
    obtain rfl : ImportError.cancelled = e := by simpa [Run.close] using he
    exact ⟨rfl, cancelled⟩
  | finish running => simp [Run.close] at he

/-- Over a quiet backend no tick cancels the batch. -/
theorem cancelled_tick_quiet {x y : Run α × World} (tick : Tick p backend.quiet now x y) :
    y.2.cancelled = x.2.cancelled := by
  cases tick with
  | start running => simp [World.call, Backend.quiet]
  | _ => rfl

theorem cancelled_poll_quiet (p : Policy) (backend : Backend) (now : Nat) (r : Run α) (w : World) :
    (r.poll p backend.quiet now w).2.cancelled = w.cancelled :=
  poll_keeps (I := fun x => x.2.cancelled = w.cancelled) p backend.quiet now
    (fun tick h => (cancelled_tick_quiet tick).trans h) r w rfl

/-- Over a quiet backend only a batch that has been cancelled before ends badly. -/
theorem cancelled_of_error {r : Run α} {w : World} {e : ImportError} (running : r.verdict = none)
    (ended : (r.poll p backend.quiet now w).1.verdict = some (.error e)) : w.cancelled = true := by
  have hblamed : Blamed (r.poll p backend.quiet now w) :=
    poll_keeps (I := Blamed) p backend.quiet now blamed_tick r w (by simp [Blamed, running])
  rw [← cancelled_poll_quiet p backend now r w]
  exact (hblamed e ended).2

end SheetIntake.Batch
