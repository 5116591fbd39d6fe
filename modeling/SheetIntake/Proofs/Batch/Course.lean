import SheetIntake.Proofs.Batch.Dispatch
import SheetIntake.Proofs.Batch.Waiting

/-! # The course of a batch in time

    The course polls a batch at the times at which something happens to it.  It is one of the
    ways in which a batch can go on (`comes_course`), so all that holds of every moment holds
    of its end.

    If nobody cancels the batch, its course comes to an end and finishes every row as the call
    for this row does (`NeverCancelled.verdict`).  The width of the window does not occur in
    that summary, so it is the one of the same batch row by row. -/

namespace SheetIntake.Batch

variable {α : Type} {p : Policy} {backend : Backend} {now : Nat}

/-! ## The course -/

namespace Plan

/-! The course is one of the ways in which a batch can go on. -/

/-- The next event of a batch that waits lies ahead, and if the moment of cancelling is not over
either, no time that comes next is. -/
theorem le_nextTime {cancelAt : Option Nat} {x : Run α × World} (waiting : Waiting now x)
    (later : ∀ c, cancelAt = some c → now ≤ c) {t : Nat}
    (next : nextTime cancelAt x.1 x.2 = some t) : now ≤ t := by
  have hevent : ∀ u, x.1.nextEvent = some u → now ≤ u := by
    intro u hu
    obtain ⟨a, ha, hau⟩ := List.mem_filterMap.1 (List.min?_eq_some_iff.1 hu).1
    exact Nat.le_of_lt (waiting.ahead a ha u hau)
  have hcut : ∀ c, (if x.2.cancelled then none else cancelAt) = some c → now ≤ c := by
    intro c hc
    split at hc
    · cases hc
    · exact later c hc
  unfold nextTime earlier at next
  split at next
  · rename_i a b ha hb
    obtain rfl := Option.some.inj next
    exact Nat.le_min.2 ⟨hevent a ha, hcut b hb⟩
  · rename_i a ha _
    obtain rfl := Option.some.inj next
    exact hevent a ha
  · exact hcut t next

theorem leads_cancelBy {m : Moment α} {cancelAt : Option Nat} {r : Run α} {w : World} {t : Nat}
    (h : Leads p backend m ⟨t, r, w⟩) : Leads p backend m ⟨t, r, cancelBy cancelAt t w⟩ := by
  cases hc : cancelAt.any (· ≤ t) with
  | false => simpa [cancelBy, hc] using h
  | true => simpa [cancelBy, hc, Moment.cancel] using h.cancel

/-- Following a plan leads from moment to moment. -/
theorem leads_follow (plan : Plan α) {m : Moment α} (steps : Nat) {r : Run α} {w : World}
    (h : Leads plan.policy plan.backend m ⟨now, r, w⟩)
    (later : w.cancelled = false → ∀ c, plan.cancelAt = some c → now ≤ c) :
    ∃ t, Leads plan.policy plan.backend m
      ⟨t, (plan.follow steps now r w).1, (plan.follow steps now r w).2⟩ := by
  induction steps generalizing now r w with
  | zero => exact ⟨now, h.poll⟩
  | succ steps ih =>
    simp only [follow]
    have hpoll : Leads plan.policy plan.backend m _ := h.poll
    split
    · exact ⟨now, hpoll⟩
    · rename_i hopen
      have waiting := (poll_ended_or_waiting plan.policy plan.backend now r w).resolve_left hopen
      split
      · exact ⟨now, hpoll⟩
      · rename_i t ht
        have hle : now ≤ t := le_nextTime waiting (later (untouched_of_open hopen)) ht
        refine ih (leads_cancelBy (hpoll.wait hle)) ?_
        intro hc c hcut
        simp only [cancelBy, hcut, Bool.or_eq_false_iff, Option.any_some, decide_eq_false_iff_not,
          Nat.not_le] at hc
        exact Nat.le_of_lt hc.2

/-- The course of a plan is one that `Comes` describes. -/
theorem comes_course (plan : Plan α) :
    ∃ t, Comes plan.policy plan.backend plan.payloads ⟨t, plan.course.1, plan.course.2⟩ := by
  refine leads_follow plan _ ?_ fun _ c _ => Nat.zero_le c
  cases hb : plan.cancelledBefore with
  | false =>
    simp only [Plan.world, hb]
    exact .refl _
  | true =>
    simp only [Plan.world, hb]
    exact (Leads.refl (Moment.start plan.payloads)).cancel

/-! A course that nobody cancels comes to an end. -/

theorem NeverCancelled.quiet {plan : Plan α} (h : plan.NeverCancelled) :
    plan.backend.quiet = plan.backend := by
  funext k
  show { plan.backend k with cancels := false } = plan.backend k
  rw [← h.calls k]

theorem NeverCancelled.untouched {plan : Plan α} (h : plan.NeverCancelled) {r : Run α}
    {w : World} (untouched : w.cancelled = false) :
    (r.poll plan.policy plan.backend now w).2.cancelled = false := by
  rw [← h.quiet, cancelled_poll_quiet, untouched]

/-- Following a plan that nobody cancels ends as soon as there are as many steps as rows are
unfinished after the first poll.  Time passes to the next event only, so everything is noted in
time. -/
theorem follow_ends {plan : Plan α} (never : plan.NeverCancelled) (steps : Nat) {r : Run α}
    {w : World} (untouched : w.cancelled = false)
    (punctual : Punctual plan.policy plan.backend now (r, w))
    (enough : (r.poll plan.policy plan.backend now w).1.unfinished ≤ steps) :
    (plan.follow steps now r w).1.verdict.isSome = true ∧
      (plan.follow steps now r w).2.cancelled = false ∧
      ∃ t, Punctual plan.policy plan.backend t (plan.follow steps now r w) := by
  induction steps generalizing now r w with
  | zero =>
    have hpunctual := poll_keeps _ _ now punctual_tick r w punctual
    have hends := poll_ended_or_waiting plan.policy plan.backend now r w
    refine ⟨?_, never.untouched untouched, now, hpunctual⟩
    refine hends.resolve_right fun waiting => ?_
    have := waiting.unfinished_pos
    omega
  | succ steps ih =>
    have hpunctual := poll_keeps _ _ now punctual_tick r w punctual
    have hends := poll_ended_or_waiting plan.policy plan.backend now r w
    simp only [follow]
    split
    · rename_i hended
      exact ⟨hended, never.untouched untouched, now, hpunctual⟩
    · rename_i hopen
      have waiting := hends.resolve_left hopen
      obtain ⟨t, hnext, a, ha, hat⟩ := waiting.next
      have hx : (r.poll plan.policy plan.backend now w).2.cancelled = false :=
        never.untouched untouched
      have htime : nextTime plan.cancelAt (r.poll plan.policy plan.backend now w).1
          (r.poll plan.policy plan.backend now w).2 = some t := by
        simp [nextTime, never.outside, hnext, earlier]
      have hsame : cancelBy plan.cancelAt t (r.poll plan.policy plan.backend now w).2 =
          (r.poll plan.policy plan.backend now w).2 := by
        simp [cancelBy, never.outside]
      rw [htime]
      simp only [hsame]
      -- The next poll finishes a row, so one step fewer will do from there on.
      refine ih hx (hpunctual.later hnext) (Nat.le_of_lt_succ (Nat.lt_of_lt_of_le ?_ enough))
      exact unfinished_poll_lt waiting.running hx ha hat (Nat.le_refl t)

/-- The course of a plan that nobody cancels ends with the results of the rows by themselves. -/
theorem NeverCancelled.verdict {plan : Plan α} (never : plan.NeverCancelled) :
    plan.course.1.verdict = some (.ok plan.ownSummary) := by
  have hstart : Punctual plan.policy plan.backend 0 (Run.start plan.payloads, plan.world) :=
    punctual_start plan.payloads rfl
  have hfew : ((Run.start plan.payloads).poll plan.policy plan.backend 0 plan.world).1.unfinished ≤
      plan.payloads.length + 1 := by
    refine Nat.le_trans (poll_ticks ..).unfinished_le ?_
    simp [Run.unfinished, Run.start]
  obtain ⟨hended, huntouched, t, hpunctual⟩ :=
    follow_ends never (plan.payloads.length + 1) never.before hstart hfew
  obtain ⟨u, hcomes⟩ := plan.comes_course
  obtain ⟨v, hv⟩ := Option.isSome_iff_exists.1 hended
  have hv' : plan.course.1.verdict = some v := hv
  cases v with
  | error e =>
    -- Nobody has cancelled the batch.
    have hcancelled : plan.course.2.cancelled = true := (hcomes.blamed e hv').2
    exact absurd (huntouched.symm.trans hcancelled) (by simp)
  | ok m =>
    obtain ⟨-, hlength, hm⟩ := hcomes.all_of_ok hv'
    have hrows := hcomes.disciplined.results
    rw [hlength] at hrows
    have hresults : plan.course.1.results =
        ownResults plan.policy.timeout plan.backend plan.payloads :=
      hpunctual.results_eq hrows
    rw [hv', hm, hresults]
    rfl

end Plan

/-! ## Summaries of rows by themselves -/

/-- A call ends in a failure exactly when it fails within the time limit. -/
theorem Behaviour.bounded_outcomeWithin {timeout : Nat} {b : Behaviour} {message : String} :
    (b.outcomeWithin timeout).bounded = .failed message ↔ b.FailsWithin timeout message := by
  have htimeout : truncated RecordError.timeout.message = "Request timed out" := by decide +kernel
  by_cases hprompt : ∃ d, b.delay = some d ∧ d ≤ timeout
  · obtain ⟨d, hd, hle⟩ := hprompt
    have hown : b.outcomeWithin timeout = Outcome.ofAnswer b.answer := by
      simp [outcomeWithin, hd, hle]
    rw [hown]
    constructor
    · intro h
      cases ha : b.answer with
      | ok id => simp [ha, Outcome.ofAnswer, Outcome.bounded] at h
      | error e =>
        obtain rfl : truncated e.message = message := by
          simpa [ha, Outcome.ofAnswer, Outcome.bounded] using h
        exact .refused hd hle ha
    · intro h
      cases h with
      | late hlate => exact absurd (hlate d hd) (Nat.not_lt.2 hle)
      | refused _ _ ha => simp [ha, Outcome.ofAnswer, Outcome.bounded]
  · have hlate : ∀ d, b.delay = some d → timeout < d := fun d hd =>
      Nat.lt_of_not_le fun hle => hprompt ⟨d, hd, hle⟩
    have hown : b.outcomeWithin timeout = .failed RecordError.timeout.message := by
      cases hd : b.delay with
      | none => simp [outcomeWithin, hd]
      | some d => simp [outcomeWithin, hd, Nat.not_le.2 (hlate d hd)]
    rw [hown, Outcome.bounded, htimeout]
    constructor
    · intro h
      obtain rfl := Outcome.failed.inj h
      exact .late hlate
    · intro h
      cases h with
      | late _ => rfl
      | refused hd hle _ => exact absurd ⟨_, hd, hle⟩ hprompt

theorem rows_ownResults (timeout : Nat) (backend : Backend) (payloads : List α) :
    (ownResults timeout backend payloads).map RowResult.row = List.range payloads.length :=
  List.ext_getElem (by simp [ownResults]) fun i hi hi' => by simp [ownResults]

theorem mem_failed_ownResults {timeout : Nat} {payloads : List α} {x : RowResult} :
    x ∈ (Summary.ofResults (ownResults timeout backend payloads)).failed ↔
      ∃ i message, i < payloads.length ∧ (backend i).FailsWithin timeout message ∧
        x = { row := i, outcome := .failed message } := by
  rw [Summary.mem_failed, ownResults, List.mem_mapIdx]
  constructor
  · rintro ⟨⟨i, hi, rfl⟩, hfail⟩
    cases ho : ((backend i).outcomeWithin timeout).bounded with
    | created id => simp [RowResult.isSuccess, RowResult.of, ho, Outcome.isSuccess] at hfail
    | failed message =>
      exact ⟨i, message, hi, Behaviour.bounded_outcomeWithin.1 ho, by rw [RowResult.of, ho]⟩
  · rintro ⟨i, message, hi, hfails, rfl⟩
    refine ⟨⟨i, hi, ?_⟩, rfl⟩
    rw [RowResult.of, Behaviour.bounded_outcomeWithin.2 hfails]

/-- A batch that nobody cancels always ends, and its summary is the one of the same batch with
one row at a time.  It counts every row, and a row fails exactly when its own call takes too long
or is refused, whatever becomes of the others. -/
theorem concurrent_eq_serial {plan : Plan α} (never : plan.NeverCancelled) :
    plan.course.1.verdict = some (.ok plan.ownSummary) ∧
      plan.serial.course.1.verdict = some (.ok plan.ownSummary) ∧
      plan.ownSummary.total = plan.payloads.length ∧
      plan.ownSummary.succeeded + plan.ownSummary.failed.length = plan.ownSummary.total ∧
      (plan.ownSummary.failed.map RowResult.row).Pairwise (· < ·) ∧
      ∀ x, x ∈ plan.ownSummary.failed ↔
        ∃ i message, i < plan.payloads.length ∧
          (plan.backend i).FailsWithin plan.policy.timeout message ∧
          x = { row := i, outcome := .failed message } := by
  have hserial : plan.serial.NeverCancelled := ⟨never.before, never.outside, never.calls⟩
  refine ⟨never.verdict, hserial.verdict, ?_, Summary.succeeded_add_failed _,
    Summary.failed_rows_increasing (rows_ownResults ..), fun x => mem_failed_ownResults⟩
  simp [Plan.ownSummary, ownResults]

/-- The batch of four rows, two at a time, when nobody cancels it. -/
def Sample.plan : Plan Unit where
  policy := Sample.policy
  backend := Sample.calls
  payloads := Sample.rows
  cancelledBefore := false
  cancelAt := none

theorem four_rows_concurrent_eq_serial :
    Sample.plan.NeverCancelled ∧
      Sample.plan.course.1.verdict = Sample.plan.serial.course.1.verdict ∧
      Sample.plan.course.1.verdict = some (.ok
        { total := 4
          succeeded := 1
          failed := [⟨1, .failed "HTTP 422: no name"⟩, ⟨2, .failed "Request timed out"⟩,
            ⟨3, .failed "Request timed out"⟩] }) := by
  have never : Sample.plan.NeverCancelled := by
    refine ⟨rfl, rfl, fun k => ?_⟩
    match k with
    | 0 | 1 | _ + 2 => rfl
  obtain ⟨hverdict, hserial, -⟩ := concurrent_eq_serial never
  refine ⟨never, hverdict.trans hserial.symm, hverdict.trans ?_⟩
  have hown : Sample.plan.ownSummary =
      { total := 4
        succeeded := 1
        failed := [⟨1, .failed "HTTP 422: no name"⟩, ⟨2, .failed "Request timed out"⟩,
          ⟨3, .failed "Request timed out"⟩] } := by
    decide +kernel
  rw [hown]

end SheetIntake.Batch
