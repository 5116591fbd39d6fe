import SheetIntake.Proofs.Batch.Rows

/-! # How a batch hands out its rows

    A batch has three fronts, each behind the one before it: the rows it has made a call
    for, the rows that are finished, and the rows whose results it has collected.
    `Disciplined` says how the first and the last of them lie to each other at every moment
    a batch can come to, whatever the calls do and whenever it is cancelled: both go through
    the rows in order, one row each time, and they are never further apart than the window
    is wide.

    The invariants behind it are kept by every tick: `Orderly`, `Onward` and `Tracked` of
    the modules before, and `Windowed` of this one.  The second half of the module is about
    cancelling: from a moment at which the batch is cancelled, nothing moves any more
    (`Leads.frozen`), so a batch that has ended well was not cancelled before its end
    (`Leads.uncancelled_of_ok`). -/

namespace SheetIntake.Batch

variable {α : Type} {p : Policy} {backend : Backend} {payloads : List α} {now : Nat}

/-! ## The turns of a batch -/

theorem turn_of_ended {r : Run α} (h : r.verdict.isSome = true) (w : World) :
    r.turn p backend now w = (r, w) :=
  if_pos h

theorem turn_of_cancelled {r : Run α} {w : World} (running : r.verdict.isSome ≠ true)
    (h : w.cancelled = true) :
    r.turn p backend now w = (r.close (.error .cancelled), w) := by
  rw [Run.turn, if_neg running, if_pos h]

theorem turn_of_done {r : Run α} {w : World} (running : r.verdict.isSome ≠ true)
    (untouched : w.cancelled ≠ true) (h : r.remaining = 0) :
    r.turn p backend now w = (r.close (.ok (Summary.ofResults r.results)), w) := by
  rw [Run.turn, if_neg running, if_neg untouched, if_pos h]

theorem turn_of_collected {r : Run α} {w : World} (running : r.verdict.isSome ≠ true)
    (untouched : w.cancelled ≠ true) (unfinished : r.remaining ≠ 0) {result : RowResult}
    {flight : List Attempt}
    (h : (r.proceed p backend now w).1.collected? = some (result, flight)) :
    r.turn p backend now w =
      ({ (r.proceed p backend now w).1 with flight, results := r.results ++ [result] },
        (r.proceed p backend now w).2.collect) := by
  simp only [Run.turn, if_neg running, if_neg untouched, if_neg unfinished, h]

theorem turn_of_waiting {r : Run α} {w : World} (running : r.verdict.isSome ≠ true)
    (untouched : w.cancelled ≠ true) (unfinished : r.remaining ≠ 0)
    (h : (r.proceed p backend now w).1.collected? = none) :
    r.turn p backend now w = r.proceed p backend now w := by
  simp only [Run.turn, if_neg running, if_neg untouched, if_neg unfinished, h]

/-- A turn is a sequence of ticks. -/
theorem turn_ticks (p : Policy) (backend : Backend) (now : Nat) (r : Run α) (w : World) :
    Ticks p backend now (r, w) (r.turn p backend now w) := by
  by_cases hv : r.verdict.isSome = true
  · rw [turn_of_ended hv]
  have running : r.verdict = none := by simpa using hv
  by_cases hc : w.cancelled = true
  · rw [turn_of_cancelled hv hc]
    exact .single (.cancel running hc)
  by_cases hr : r.remaining = 0
  · rw [turn_of_done hv hc hr]
    exact .single (.finish running (by simpa using hc) hr)
  have hticks := proceed_ticks p backend now r w running
  cases hcol : (r.proceed p backend now w).1.collected? with
  | none =>
    rw [turn_of_waiting hv hc hr hcol]
    exact hticks
  | some x =>
    obtain ⟨a, o, hflight, hended, hresult⟩ := collected?_eq_some hcol
    rw [turn_of_collected hv hc hr hcol, hresult, ← results_proceed p backend now r w]
    exact hticks.tail (.collect running hflight hended)

/-- What every tick keeps, a turn keeps. -/
theorem turn_keeps {I : Run α × World → Prop} (p : Policy) (backend : Backend) (now : Nat)
    (keeps : ∀ {x y}, Tick p backend now x y → I x → I y) (r : Run α) (w : World) (h : I (r, w)) :
    I (r.turn p backend now w) :=
  (turn_ticks p backend now r w).keep keeps h

/-- What every tick and the cancelling keep, is kept from moment to moment. -/
theorem Leads.keep {I : Run α × World → Prop} {m m' : Moment α} (h : Leads p backend m m')
    (keeps : ∀ {now x y}, Tick p backend now x y → I x → I y)
    (cancels : ∀ {r w}, I (r, w) → I (r, { w with cancelled := true }))
    (hm : I (m.run, m.world)) : I (m'.run, m'.world) := by
  induction h with
  | refl => exact hm
  | @turn m' h ih => exact turn_keeps p backend m'.now keeps m'.run m'.world ih
  | wait h le ih => exact ih
  | cancel h ih => exact cancels ih

/-- Polling is taking turns, so whatever polling comes to, turns come to. -/
theorem Leads.poll {m m' : Moment α} (h : Leads p backend m m') :
    Leads p backend m (m'.poll p backend) := by
  obtain ⟨now, r, w⟩ := m'
  have step {r : Run α} {w : World} {x : Run α × World}
      (h : Leads p backend m ⟨now, r, w⟩) (hx : r.turn p backend now w = x) :
      Leads p backend m ⟨now, x.1, x.2⟩ := hx ▸ h.turn
  revert h
  refine Run.poll.induct_unfolding p backend now
    (fun r w x => Leads p backend m ⟨now, r, w⟩ → Leads p backend m ⟨now, x.1, x.2⟩)
    ?ended ?cancelled ?done ?collected ?overtaken ?waiting r w
  case ended => exact fun r w hv h => h
  case cancelled => exact fun r w hv hc h => step h (turn_of_cancelled hv hc)
  case done => exact fun r w hv hc hr h => step h (turn_of_done hv hc hr)
  case collected =>
    exact fun r w hv hc hr result flight hcol ih h => ih (step h (turn_of_collected hv hc hr hcol))
  case overtaken =>
    -- The first turn makes the call that cancels the batch, the second one ends it.
    intro r w hv hc hr hcol r' w' hp hc' h
    have hfirst : Leads p backend m ⟨now, r', w'⟩ :=
      step h ((turn_of_waiting hv hc hr hcol).trans hp)
    have hsame : r'.verdict = r.verdict := by rw [← verdict_proceed p backend now r w, hp]
    have hv' : r'.verdict.isSome ≠ true := hsame ▸ hv
    exact step hfirst (turn_of_cancelled hv' hc')
  case waiting =>
    exact fun r w hv hc hr hcol r' w' hp _ h => step h ((turn_of_waiting hv hc hr hcol).trans hp)

/-! ## The window -/

/-- No more rows are under way than the window is wide, the counter shows the results, and the
log shows the calls. -/
structure Windowed (p : Policy) (x : Run α × World) : Prop where
  window : x.1.flight.length ≤ p.width
  progress : x.2.progress = x.1.results.length
  log : x.2.events.filterMap Event.started? = List.range x.2.calls

theorem windowed_start (p : Policy) (payloads : List α) :
    Windowed p (Run.start payloads, World.fresh) :=
  ⟨Nat.zero_le _, rfl, rfl⟩

/-- Answers are no calls. -/
theorem filterMap_answers (now : Nat) (flight : List Attempt) :
    (answers now flight).filterMap Event.started? = [] := by
  simp [answers, Event.started?]

theorem windowed_tick {x y : Run α × World} (tick : Tick p backend now x y) (h : Windowed p x) :
    Windowed p y := by
  obtain ⟨hwindow, hprogress, hlog⟩ := h
  cases tick with
  | note running =>
    refine ⟨by simpa using hwindow, hprogress, ?_⟩
    simpa [List.filterMap_append, filterMap_answers] using hlog
  | @start r w q qs running next room unfinished =>
    refine ⟨?_, hprogress, ?_⟩
    · simp only [List.length_append, List.length_singleton]
      omega
    · -- The call gets the next number, and what it answers at once is no call.
      have hcall : (w.call (backend w.calls)).events.filterMap Event.started? =
          w.events.filterMap Event.started? ++ [w.calls] := by
        by_cases hd : (backend w.calls).delay = some 0 <;>
          simp [World.call, List.filterMap_append, Event.started?, hd]
      have hlog' : w.events.filterMap Event.started? = List.range w.calls := hlog
      rw [hcall, hlog', ← List.range_succ]
      rfl
  | @collect r w a rest o running first ended =>
    refine ⟨?_, ?_, hlog⟩
    · have : r.flight.length ≤ p.width := hwindow
      rw [first, List.length_cons] at this
      show rest.length ≤ p.width
      omega
    · have : w.progress = r.results.length := hprogress
      simp [this]
  | cancel running cancelled => exact ⟨hwindow, hprogress, hlog⟩
  | finish running untouched done => exact ⟨hwindow, hprogress, hlog⟩

/-! ## The discipline -/

/-- How the calls and the results of a batch lie to its rows.  Calls are numbered from 0 on. -/
structure Disciplined (p : Policy) (backend : Backend) (payloads : List α) (r : Run α)
    (w : World) : Prop where
  /-- The log shows every call once, in the order of the rows. -/
  log : w.events.filterMap Event.started? = List.range w.calls
  /-- The calls have been made for the first rows. -/
  queue : r.queue = payloads.drop w.calls
  calls_le : w.calls ≤ payloads.length
  /-- The results are those of the first rows. -/
  results : r.results.map RowResult.row = List.range r.results.length
  /-- Under way are the rows from there to the last call. -/
  flight : r.flight.map Attempt.row =
    List.range' r.results.length (w.calls - r.results.length)
  results_le : r.results.length ≤ w.calls
  window : w.calls - r.results.length ≤ max 1 p.concurrency
  progress : w.progress = r.results.length
  /-- Every row under way and every result goes back to the call of the same number. -/
  own : r.Tracked p backend fun row call => call = row

/-- The calls made since the start are numbered like the rows. -/
theorem madeBetween_start {x : Run α × World} {row call : Nat}
    (h : Run.madeBetween (Run.start payloads, World.fresh) x row call) : call = row := by
  obtain ⟨-, -, hcall⟩ := h
  simpa [Run.started, Run.start, World.fresh] using hcall

theorem Comes.disciplined {m : Moment α} (h : Comes p backend payloads m) :
    Disciplined p backend payloads m.run m.world := by
  have orderly : m.run.Orderly :=
    Leads.keep (I := fun x => x.1.Orderly) h Run.orderly_tick id (Run.orderly_start payloads)
  have windowed : Windowed p (m.run, m.world) :=
    Leads.keep (I := Windowed p) h windowed_tick
      (fun hw => ⟨hw.window, hw.progress, hw.log⟩) (windowed_start p payloads)
  have honward : Onward (Run.start payloads, World.fresh) (m.run, m.world) ∧
      m.run.Tracked p backend fun row call => False ∨
        Run.madeBetween (Run.start payloads, World.fresh) (m.run, m.world) row call :=
    Leads.keep (I := fun x => Onward (Run.start payloads, World.fresh) x ∧
        x.1.Tracked p backend fun row call => False ∨
          Run.madeBetween (Run.start payloads, World.fresh) x row call) h
      (fun tick hx => ⟨onward_tick tick hx.1, Run.tracked_tick tick hx.1 hx.2⟩)
      (fun hx => ⟨⟨hx.1.started_le, hx.1.queue, hx.1.length, hx.1.calls, hx.1.results⟩, hx.2⟩)
      ⟨.refl _, Run.tracked_start payloads _⟩
  obtain ⟨onward, tracked⟩ := honward
  -- One call has been made for every row that has been started.
  have hcalls : m.world.calls = m.run.results.length + m.run.flight.length := by
    simpa [Run.started, Run.start, World.fresh] using onward.calls
  have hrows : m.run.results.map RowResult.row ++ m.run.flight.map Attempt.row =
      List.range' 0 m.run.results.length ++
        List.range' m.run.results.length m.run.flight.length := by
    rw [orderly.rows, Run.started, List.range_eq_range', ← List.range'_append_1, Nat.zero_add]
  obtain ⟨hresults, hflight⟩ := List.append_inj hrows (by simp)
  have hlength : m.world.calls + m.run.queue.length = payloads.length := by
    simpa [Run.started, Run.start, hcalls] using onward.length
  refine ⟨windowed.log, ?_, by omega, ?_, ?_, by omega, ?_, windowed.progress, ?_⟩
  · simpa [Run.started, Run.start, hcalls] using onward.queue
  · rw [hresults, List.range_eq_range']
  · rw [hflight, hcalls, Nat.add_sub_cancel_left]
  · rw [hcalls, Nat.add_sub_cancel_left]
    exact windowed.window
  · refine tracked.mono ?_
    rintro row call (h | h)
    · exact h.elim
    · exact madeBetween_start h

/-! ## Cancelling -/

/-- From a moment at which the batch is cancelled nothing moves any more: either the batch has
not looked yet, or it has found out and ended. -/
theorem Leads.frozen {m m' : Moment α} (h : Leads p backend m m')
    (cancelled : m.world.cancelled = true) :
    m'.world = m.world ∧
      (m'.run = m.run ∨
        m.run.verdict = none ∧ m'.run = m.run.close (.error .cancelled)) := by
  induction h with
  | refl => exact ⟨rfl, .inl rfl⟩
  | @turn m' h ih =>
    obtain ⟨hworld, hrun⟩ := ih
    have hc : m'.world.cancelled = true := hworld ▸ cancelled
    by_cases hv : m'.run.verdict.isSome = true
    · -- The batch has ended before.
      simpa only [Moment.turn, turn_of_ended hv] using ⟨hworld, hrun⟩
    · simp only [Moment.turn, turn_of_cancelled hv hc]
      refine ⟨hworld, .inr ?_⟩
      rcases hrun with hsame | ⟨-, hclosed⟩
      · exact ⟨by simpa [hsame] using hv, by rw [hsame]⟩
      · exact absurd (by simp [hclosed, Run.close]) hv
  | wait h le ih => exact ih
  | @cancel m' h ih =>
    obtain ⟨hworld, hrun⟩ := ih
    refine ⟨?_, hrun⟩
    show { m'.world with cancelled := true } = m.world
    rw [hworld, ← cancelled]

/-- A batch that has ended well was not cancelled before its end. -/
theorem Leads.uncancelled_of_ok {m m' : Moment α} (h : Leads p backend m m') {s : Summary}
    (ended : m'.run.verdict = some (.ok s)) (running : m.run.verdict = none) :
    m.world.cancelled = false := by
  by_contra hc
  obtain ⟨-, hsame | ⟨-, hclosed⟩⟩ := h.frozen (by simpa using hc)
  · rw [hsame, running] at ended
    cases ended
  · rw [hclosed] at ended
    cases ended

theorem Comes.blamed {m : Moment α} (h : Comes p backend payloads m) :
    Blamed (m.run, m.world) :=
  Leads.keep (I := Blamed) h blamed_tick (fun hx e he => ⟨(hx e he).1, rfl⟩)
    (by simp [Blamed, Moment.start, Run.start])

/-- A batch that has ended well has collected the results of all rows. -/
theorem Comes.all_of_ok {m : Moment α} (h : Comes p backend payloads m) {s : Summary}
    (ended : m.run.verdict = some (.ok s)) :
    m.world.calls = payloads.length ∧ m.run.results.length = payloads.length ∧
      s = Summary.ofResults m.run.results := by
  have orderly : m.run.Orderly :=
    Leads.keep (I := fun x => x.1.Orderly) h Run.orderly_tick id (Run.orderly_start payloads)
  obtain ⟨hqueue, hflight, rfl⟩ := orderly.ended s ended
  have hd := h.disciplined
  -- Nothing is left in the queue, so all calls are made; none is under way, so all are collected.
  have hleft : payloads.drop m.world.calls = [] := hd.queue ▸ hqueue
  have hcalls : m.world.calls = payloads.length :=
    Nat.le_antisymm hd.calls_le (List.drop_eq_nil_iff.1 hleft)
  have hunder : m.world.calls - m.run.results.length = 0 := by
    simpa [hflight] using (congrArg List.length hd.flight).symm
  have hle := hd.results_le
  exact ⟨hcalls, by omega, rfl⟩

/-- At every moment of every batch the calls and the results go through the rows in order, not
further apart than the window is wide, and the counter shows the results.  From the moment at
which the batch is cancelled neither goes on, and the batch ends as cancelled with its next
turn.  It ends well only when all rows are collected, and only if it has not been cancelled
before. -/
theorem dispatch_discipline (p : Policy) (backend : Backend) (payloads : List α) {m : Moment α}
    (h : Comes p backend payloads m) :
    Disciplined p backend payloads m.run m.world ∧
      (m.world.cancelled = true →
        (m.run.verdict = none →
          (m.turn p backend).run.verdict = some (.error .cancelled)) ∧
        ∀ m', Leads p backend m m' →
          m'.world.calls = m.world.calls ∧ m'.run.results = m.run.results ∧
            m'.world.progress = m.world.progress ∧
            (m'.run.verdict = m.run.verdict ∨
              m.run.verdict = none ∧ m'.run.verdict = some (.error .cancelled))) ∧
      (∀ e, m.run.verdict = some (.error e) → e = .cancelled ∧ m.world.cancelled = true) ∧
      ∀ s, m.run.verdict = some (.ok s) →
        m.world.calls = payloads.length ∧ m.run.results.length = payloads.length ∧
          s = Summary.ofResults m.run.results ∧
          ∀ m₀, Leads p backend m₀ m → m₀.run.verdict = none → m₀.world.cancelled = false := by
  refine ⟨h.disciplined, ?_, h.blamed, ?_⟩
  · intro hc
    constructor
    · intro running
      have hv : m.run.verdict.isSome ≠ true := by simp [running]
      show (m.run.turn p backend m.now m.world).1.verdict = some (.error .cancelled)
      rw [turn_of_cancelled hv hc]
      rfl
    · intro m' hm'
      obtain ⟨hworld, hrun⟩ := hm'.frozen hc
      rw [hworld]
      rcases hrun with hsame | ⟨running, hclosed⟩
      · rw [hsame]
        exact ⟨rfl, rfl, rfl, .inl rfl⟩
      · rw [hclosed]
        exact ⟨rfl, rfl, rfl, .inr ⟨running, rfl⟩⟩
  · intro s ended
    obtain ⟨hcalls, hresults, hsummary⟩ := h.all_of_ok ended
    exact ⟨hcalls, hresults, hsummary, fun m₀ hm₀ running => hm₀.uncancelled_of_ok ended running⟩

/-! A batch of four rows, two at a time. -/

namespace Sample

/-- The first call takes its time, the second is refused at once, and the others are never
answered. -/
def calls : Backend
  | 0 => { cancels := false, delay := some 5, answer := .ok (some "first") }
  | 1 => { cancels := false, delay := some 0, answer := .error (.rejected 422 "no name") }
  | _ => { cancels := false, delay := none, answer := .ok none }

def policy : Policy := { concurrency := 2, timeout := 9 }

def rows : List Unit := [(), (), (), ()]

/-- The first two rows are collected when the first answer comes, and the batch is cancelled
while the other two are under way. -/
def cancelled : Moment Unit :=
  ((((((Moment.start rows).turn policy calls).waitUntil 5).turn policy calls).turn
    policy calls).turn policy calls).cancel

end Sample

theorem two_collected_two_under_way :
    Comes Sample.policy Sample.calls Sample.rows Sample.cancelled ∧
      Sample.cancelled.run.verdict = none ∧ Sample.cancelled.world.cancelled = true ∧
      Sample.cancelled.world.calls = 4 ∧ Sample.cancelled.world.progress = 2 ∧
      Disciplined Sample.policy Sample.calls Sample.rows Sample.cancelled.run
        Sample.cancelled.world ∧
      (Sample.cancelled.turn Sample.policy Sample.calls).run.verdict =
        some (.error .cancelled) := by
  have hcomes : Comes Sample.policy Sample.calls Sample.rows Sample.cancelled :=
    ((((Leads.refl _).turn.wait (by decide)).turn).turn).turn.cancel
  obtain ⟨hdisciplined, hcancelled, -, -⟩ :=
    dispatch_discipline Sample.policy Sample.calls Sample.rows hcomes
  exact ⟨hcomes, rfl, rfl, rfl, rfl, hdisciplined, (hcancelled rfl).1 rfl⟩

end SheetIntake.Batch
