import Mathlib.Data.List.Nodup
import SheetIntake.Proofs.Batch.Ticks

/-! # The rows of a batch

    A batch hands out its rows in order, and gathers their results in order.  `Orderly`
    is the invariant behind this: the collected rows and the rows under way are together
    the rows that have been started, from 0 on.

    `Tracked` says where a result comes from: every row belongs to one call, and its
    result is a way in which this call may end (`Behaviour.MayEnd`).  The last section
    reads off the summary of a finished batch from these two. -/

namespace SheetIntake

/-! ## Summaries -/

namespace Summary

@[simp] theorem total_ofResults (rs : List RowResult) : (ofResults rs).total = rs.length := rfl

theorem succeeded_add_failed (rs : List RowResult) :
    (ofResults rs).succeeded + (ofResults rs).failed.length = rs.length := by
  have h := List.length_eq_countP_add_countP RowResult.isSuccess (l := rs)
  have hfailed : (ofResults rs).failed.length = rs.countP fun r => !r.isSuccess :=
    List.countP_eq_length_filter.symm
  rw [hfailed]
  simp only [ofResults]
  simpa using h.symm

theorem failed_rows_increasing {rs : List RowResult} {n : Nat}
    (h : rs.map RowResult.row = List.range n) :
    ((ofResults rs).failed.map RowResult.row).Pairwise (· < ·) := by
  have hsub : ((ofResults rs).failed.map RowResult.row).Sublist (List.range n) :=
    h ▸ List.filter_sublist.map RowResult.row
  exact List.pairwise_lt_range.sublist hsub

@[simp] theorem mem_failed {rs : List RowResult} {r : RowResult} :
    r ∈ (ofResults rs).failed ↔ r ∈ rs ∧ r.isSuccess = false := by
  simp [ofResults]

end Summary

@[simp] theorem Outcome.isSuccess_bounded (o : Outcome) : o.bounded.isSuccess = o.isSuccess := by
  cases o <;> rfl

@[simp] theorem RowResult.isSuccess_of (row : Nat) (o : Outcome) :
    (RowResult.of row o).isSuccess = o.isSuccess :=
  o.isSuccess_bounded

@[simp] theorem RowResult.row_of (row : Nat) (o : Outcome) : (RowResult.of row o).row = row := rfl

/-- Where every row has one result, a row has no other. -/
theorem RowResult.eq_of_row_eq {rs : List RowResult} {n : Nat}
    (h : rs.map RowResult.row = List.range n) {r r' : RowResult} (hr : r ∈ rs) (hr' : r' ∈ rs)
    (hrow : r.row = r'.row) : r = r' :=
  List.inj_on_of_nodup_map (h ▸ List.nodup_range) hr hr' hrow

namespace Batch

variable {α : Type} {p : Policy} {backend : Backend} {now : Nat}

/-! ## How calls may end -/

/-- How a call may end.  An answer that comes after the time limit still counts if nobody has
looked at the call in between, so a late call has two ways to end. -/
inductive Behaviour.MayEnd (timeout : Nat) (b : Behaviour) : Outcome → Prop where
  | answered {d : Nat} (h : b.delay = some d) : MayEnd timeout b (Outcome.ofAnswer b.answer)
  | timedOut (h : ∀ d, b.delay = some d → timeout < d) :
      MayEnd timeout b (.failed RecordError.timeout.message)

/-- A call that is answered within the time limit has one way to end. -/
theorem Behaviour.MayEnd.of_prompt {timeout d : Nat} {b : Behaviour} {o : Outcome}
    (h : b.MayEnd timeout o) (prompt : b.delay = some d) (le : d ≤ timeout) :
    o = Outcome.ofAnswer b.answer := by
  cases h with
  | answered _ => rfl
  | timedOut late => exact absurd (late d prompt) (Nat.not_lt.2 le)

/-- A call that is never answered times out. -/
theorem Behaviour.MayEnd.of_silent {timeout : Nat} {b : Behaviour} {o : Outcome}
    (h : b.MayEnd timeout o) (silent : b.delay = none) :
    o = .failed RecordError.timeout.message := by
  cases h with
  | answered prompt => simp [silent] at prompt
  | timedOut _ => rfl

/-- Whether calls cancel batches has nothing to do with how they end. -/
theorem Behaviour.MayEnd.of_quiet {timeout k : Nat} {o : Outcome}
    (h : (backend.quiet k).MayEnd timeout o) : (backend k).MayEnd timeout o := by
  cases h with
  | answered hd => exact .answered hd
  | timedOut hd => exact .timedOut hd

/-- The attempt is the one of a call with the given behaviour. -/
def Attempt.Faithful (p : Policy) (b : Behaviour) (a : Attempt) : Prop :=
  ∃ since, a.due = b.delay.map (since + ·) ∧ a.deadline = since + p.timeout ∧
    a.answer = Outcome.ofAnswer b.answer ∧ ∀ o, a.outcome = some o → b.MayEnd p.timeout o

@[simp] theorem Attempt.row_settle (a : Attempt) : (a.settle now).row = a.row := by
  unfold settle
  split
  · rfl
  · split <;> rfl

@[simp] theorem Attempt.call_settle (a : Attempt) : (a.settle now).call = a.call := by
  unfold settle
  split
  · rfl
  · split <;> rfl

theorem Attempt.Faithful.settle {b : Behaviour} {a : Attempt} (h : a.Faithful p b) :
    (a.settle now).Faithful p b := by
  obtain ⟨since, hdue, hdeadline, hanswer, hended⟩ := h
  unfold Attempt.settle
  split
  · -- The answer has come, so the call is one that is answered.
    rename_i hcome
    refine ⟨since, hdue, hdeadline, hanswer, ?_⟩
    intro o ho
    obtain rfl : a.answer = o := Option.some.inj ho
    rw [hanswer]
    cases hd : b.delay with
    | none => simp [Attempt.isAnswered, Attempt.isDue, hdue, hd] at hcome
    | some d => exact .answered hd
  · rename_i hwait
    split
    · -- The deadline has come, and the answer has not.
      rename_i hover
      refine ⟨since, hdue, hdeadline, hanswer, ?_⟩
      intro o ho
      obtain rfl : Outcome.failed RecordError.timeout.message = o := Option.some.inj ho
      refine .timedOut fun d hd => ?_
      simp only [Bool.and_eq_true, decide_eq_true_eq] at hover
      simp only [Attempt.isAnswered, Attempt.isDue, hdue, hd, hover.1, Option.map_some,
        Option.any_some, Bool.true_and, decide_eq_true_eq] at hwait
      have := hover.2
      omega
    · exact ⟨since, hdue, hdeadline, hanswer, hended⟩

theorem Attempt.faithful_start (p : Policy) (now row call : Nat) (b : Behaviour) :
    (Attempt.start p now row call b).Faithful p b :=
  Attempt.Faithful.settle ⟨now, rfl, rfl, rfl, by simp⟩

@[simp] theorem Attempt.row_start (p : Policy) (now row call : Nat) (b : Behaviour) :
    (Attempt.start p now row call b).row = row := by
  simp [Attempt.start]

@[simp] theorem Attempt.call_start (p : Policy) (now row call : Nat) (b : Behaviour) :
    (Attempt.start p now row call b).call = call := by
  simp [Attempt.start]

namespace Run

/-! ## Rows in order -/

/-- The rows that have been started are, in order, those with a result and those under way.
A batch that has ended well has no row left. -/
structure Orderly (r : Run α) : Prop where
  rows : r.results.map RowResult.row ++ r.flight.map Attempt.row = List.range r.started
  ended : ∀ m, r.verdict = some (.ok m) →
    r.queue = [] ∧ r.flight = [] ∧ m = Summary.ofResults r.results

theorem orderly_start (payloads : List α) : (Run.start payloads).Orderly :=
  ⟨rfl, by simp [Run.start]⟩

theorem orderly_tick {x y : Run α × World} (tick : Tick p backend now x y) (h : x.1.Orderly) :
    y.1.Orderly := by
  obtain ⟨hrows, hended⟩ := h
  cases tick with
  | note running =>
    refine ⟨?_, by simp [running]⟩
    simpa [Run.started, Function.comp_def] using hrows
  | @start r w q qs running next room unfinished =>
    refine ⟨?_, by simp [running]⟩
    have hrows' : r.results.map RowResult.row ++ r.flight.map Attempt.row = List.range r.started :=
      hrows
    simp only [started_start]
    rw [List.range_succ, ← hrows']
    simp
  | @collect r w a rest o running first ended =>
    refine ⟨?_, by simp [running]⟩
    have hrows' : r.results.map RowResult.row ++ r.flight.map Attempt.row = List.range r.started :=
      hrows
    simp only [started_collect first]
    rw [← hrows', first]
    simp
  | cancel running cancelled =>
    refine ⟨hrows, ?_⟩
    intro m hm
    cases hm
  | @finish r w running untouched done =>
    refine ⟨hrows, ?_⟩
    intro m hm
    obtain rfl : Summary.ofResults r.results = m := by
      simpa [Run.close] using hm
    have hzero : r.queue.length + r.flight.length = 0 := done
    have hqueue : r.queue = [] := List.eq_nil_of_length_eq_zero (by omega)
    have hflight : r.flight = [] := List.eq_nil_of_length_eq_zero (by omega)
    exact ⟨hqueue, hflight, rfl⟩

theorem Orderly.poll {r : Run α} (h : r.Orderly) (w : World) :
    (r.poll p backend now w).1.Orderly :=
  poll_keeps (I := fun x => x.1.Orderly) p backend now orderly_tick r w h

/-- In a batch that has ended well, every row has one result, in order. -/
theorem Orderly.rows_of_ended {r : Run α} (h : r.Orderly) {m : Summary}
    (ended : r.verdict = some (.ok m)) :
    r.results.map RowResult.row = List.range r.results.length := by
  obtain ⟨-, hflight, -⟩ := h.ended m ended
  simpa [Run.started, hflight] using h.rows

/-- The summary of a batch that has ended well accounts for every row. -/
theorem Orderly.accounts {r : Run α} (h : r.Orderly) {m : Summary}
    (ended : r.verdict = some (.ok m)) :
    m.total = r.results.length ∧ m.succeeded + m.failed.length = m.total ∧
      (m.failed.map RowResult.row).Pairwise (· < ·) := by
  have hrows := h.rows_of_ended ended
  obtain ⟨-, -, rfl⟩ := h.ended m ended
  exact ⟨Summary.total_ofResults _, Summary.succeeded_add_failed _,
    Summary.failed_rows_increasing hrows⟩

/-! ## Rows and their calls -/

/-- Every row under way and every result goes back to a call, where `made row call` says which
call was made for which row. -/
structure Tracked (p : Policy) (backend : Backend) (made : Nat → Nat → Prop) (r : Run α) :
    Prop where
  flight : ∀ a ∈ r.flight, made a.row a.call ∧ a.Faithful p (backend a.call)
  results : ∀ x ∈ r.results, ∃ k o, made x.row k ∧ (backend k).MayEnd p.timeout o ∧
    x = RowResult.of x.row o

theorem tracked_start (payloads : List α) (made : Nat → Nat → Prop) :
    (Run.start payloads).Tracked p backend made :=
  ⟨by simp [Run.start], by simp [Run.start]⟩

theorem Tracked.mono {made made' : Nat → Nat → Prop} {r : Run α} (h : r.Tracked p backend made)
    (hmade : ∀ row k, made row k → made' row k) : r.Tracked p backend made' := by
  refine ⟨?_, ?_⟩
  · intro a ha
    exact ⟨hmade _ _ (h.flight a ha).1, (h.flight a ha).2⟩
  · intro x hx
    obtain ⟨k, o, hk, hend, heq⟩ := h.results x hx
    exact ⟨k, o, hmade _ _ hk, hend, heq⟩

/-- The calls made on the way from `x` to `y`, numbered like the rows they are for. -/
def madeBetween (x y : Run α × World) (row call : Nat) : Prop :=
  x.1.started ≤ row ∧ row < y.1.started ∧ call + x.1.started = x.2.calls + row

theorem tracked_tick {made : Nat → Nat → Prop} {x y z : Run α × World}
    (tick : Tick p backend now y z) (onward : Onward x y)
    (h : y.1.Tracked p backend fun row k => made row k ∨ madeBetween x y row k) :
    z.1.Tracked p backend fun row k => made row k ∨ madeBetween x z row k := by
  -- A tick takes no call back, so what was tracked before it still is.
  have hmono : y.1.Tracked p backend fun row k => made row k ∨ madeBetween x z row k := by
    refine h.mono ?_
    rintro row k (hk | ⟨hle, hlt, hcall⟩)
    · exact .inl hk
    · have hstep : y.1.started ≤ z.1.started := (onward_tick tick (Onward.refl y)).started_le
      exact .inr ⟨hle, Nat.lt_of_lt_of_le hlt hstep, hcall⟩
  have honward := onward_tick tick onward
  cases tick with
  | note running =>
    refine ⟨?_, hmono.results⟩
    intro a ha
    obtain ⟨b, hb, rfl⟩ := List.mem_map.1 ha
    obtain ⟨hmade, hfaithful⟩ := hmono.flight b hb
    simp only [Attempt.row_settle, Attempt.call_settle]
    exact ⟨hmade, hfaithful.settle⟩
  | @start r w q qs running next room unfinished =>
    refine ⟨?_, hmono.results⟩
    intro a ha
    rcases List.mem_append.1 ha with hold | hnew
    · exact hmono.flight a hold
    · -- The new row is the next one after `y`, and so is its call.
      obtain rfl := List.mem_singleton.1 hnew
      simp only [Attempt.row_start, Attempt.call_start]
      refine ⟨.inr ⟨onward.started_le, ?_, onward.calls⟩, Attempt.faithful_start ..⟩
      simp [Run.started]
  | @collect r w a rest o running first ended =>
    have hfirst := hmono.flight a (by simp [first])
    refine ⟨fun b hb => hmono.flight b (by simp [first, show b ∈ rest from hb]), ?_⟩
    intro b hb
    rcases List.mem_append.1 hb with hold | hnew
    · exact hmono.results b hold
    · obtain rfl := List.mem_singleton.1 hnew
      obtain ⟨hmade, since, -, -, -, hend⟩ := hfirst
      exact ⟨a.call, o, hmade, hend o ended, rfl⟩
  | cancel running cancelled => exact ⟨hmono.flight, hmono.results⟩
  | finish running untouched done => exact ⟨hmono.flight, hmono.results⟩

theorem Tracked.poll {made : Nat → Nat → Prop} {r : Run α} (h : r.Tracked p backend made)
    (now : Nat) (w : World) :
    (r.poll p backend now w).1.Tracked p backend
      fun row k => made row k ∨ madeBetween (r, w) (r.poll p backend now w) row k := by
  have hboth := poll_keeps
    (I := fun y => Onward (r, w) y ∧
      y.1.Tracked p backend fun row k => made row k ∨ madeBetween (r, w) y row k)
    p backend now
    (fun tick hy => ⟨onward_tick tick hy.1, tracked_tick tick hy.1 hy.2⟩) r w
    ⟨.refl _, h.mono fun _ _ hk => .inl hk⟩
  exact hboth.2

/-- In a batch that has ended well, a row is among the failures exactly when its call has ended
in one. -/
theorem Tracked.failed_iff {made : Nat → Nat → Prop} {r : Run α} {m : Summary}
    (h : r.Tracked p backend made) (orderly : r.Orderly) (ended : r.verdict = some (.ok m))
    {i : Nat} (hi : i < r.results.length) :
    ∃ k o, made i k ∧ (backend k).MayEnd p.timeout o ∧
      ∀ x, x ∈ m.failed ∧ x.row = i ↔ o.isSuccess = false ∧ x = RowResult.of i o := by
  have hrows := orderly.rows_of_ended ended
  obtain ⟨-, -, rfl⟩ := orderly.ended m ended
  have hmem : i ∈ r.results.map RowResult.row := by
    rw [hrows]
    exact List.mem_range.2 hi
  obtain ⟨y, hy, rfl⟩ := List.mem_map.1 hmem
  obtain ⟨k, o, hmade, hend, heq⟩ := h.results y hy
  refine ⟨k, o, hmade, hend, ?_⟩
  have hsuccess : y.isSuccess = o.isSuccess := by rw [heq]; simp
  intro x
  rw [Summary.mem_failed, ← heq, ← hsuccess]
  constructor
  · rintro ⟨⟨hx, hfail⟩, hrow⟩
    obtain rfl := RowResult.eq_of_row_eq hrows hx hy hrow
    exact ⟨hfail, rfl⟩
  · rintro ⟨hfail, rfl⟩
    exact ⟨⟨hy, hfail⟩, rfl⟩

end Run

end Batch

end SheetIntake
