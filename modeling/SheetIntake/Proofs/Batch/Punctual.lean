import SheetIntake.Proofs.Batch.Rows

/-! # Answers and deadlines noted in time

    A batch that is polled whenever something happens to a row under way notes no answer and
    no deadline late.  `Punctual` is the invariant that says so: nothing that is still to
    happen lies in the past.  From it every row ends as its own call does, whatever the
    others do (`Punctual.results_eq`). -/

namespace SheetIntake.Batch

variable {α : Type} {p : Policy} {backend : Backend} {now : Nat}

/-! ## Attempts noted in time -/

/-- What becomes of an attempt at a given time. -/
theorem Attempt.settle_cases (a : Attempt) (now : Nat) :
    (a.outcome = none ∧ a.isDue now = true ∧ a.settle now = { a with outcome := some a.answer }) ∨
      (a.outcome = none ∧ a.isDue now = false ∧ a.deadline ≤ now ∧
        a.settle now = { a with outcome := some (.failed RecordError.timeout.message) }) ∨
      (a.outcome = none ∧ a.isDue now = false ∧ now < a.deadline ∧ a.settle now = a) ∨
      (a.outcome.isSome = true ∧ a.settle now = a) := by
  cases ho : a.outcome with
  | some o => simp [settle, isAnswered, ho]
  | none =>
    cases hdue : a.isDue now with
    | true => simp [settle, isAnswered, ho, hdue]
    | false =>
      by_cases hd : a.deadline ≤ now
      · simp [settle, isAnswered, ho, hdue, hd]
      · simp [settle, isAnswered, ho, hdue, hd, Nat.lt_of_not_le hd]

theorem Attempt.nextEvent_eq_some {a : Attempt} {t : Nat} :
    a.nextEvent = some t ↔
      a.outcome = none ∧ min (a.due.getD a.deadline) a.deadline = t := by
  unfold nextEvent
  cases a.outcome <;> simp

/-- What has come is noted, so the next thing to happen lies ahead. -/
theorem Attempt.lt_nextEvent_settle {a : Attempt} {t : Nat}
    (h : (a.settle now).nextEvent = some t) : now < t := by
  obtain ⟨hnone, ht⟩ := nextEvent_eq_some.1 h
  rcases a.settle_cases now with ⟨-, -, heq⟩ | ⟨-, -, -, heq⟩ | ⟨-, hdue, hdeadline, heq⟩ |
    ⟨hsome, heq⟩
  · simp [heq] at hnone
  · simp [heq] at hnone
  · rw [heq] at ht
    cases hd : a.due with
    | none => simp only [hd, Option.getD_none] at ht; omega
    | some due =>
      have hahead : now < due := by simpa [isDue, hd] using hdue
      simp only [hd, Option.getD_some] at ht
      omega
  · simp [heq, Option.isSome_iff_ne_none.1 hsome] at hnone

/-- The attempt is the one of a call, has ended as this call does if it has ended, and nothing
that is still to happen to it lies in the past. -/
structure Attempt.Punctual (p : Policy) (b : Behaviour) (now : Nat) (a : Attempt) : Prop where
  faithful : a.Faithful p b
  ended : ∀ o, a.outcome = some o → o = b.outcomeWithin p.timeout
  pending : ∀ t, a.nextEvent = some t → now ≤ t

/-- An attempt that is looked at in time ends as its call does. -/
theorem Attempt.Punctual.settle {b : Behaviour} {a : Attempt} (h : a.Punctual p b now) :
    (a.settle now).Punctual p b now := by
  obtain ⟨hfaithful, hended, hpending⟩ := h
  refine ⟨hfaithful.settle, ?_, fun t ht => Nat.le_of_lt (lt_nextEvent_settle ht)⟩
  obtain ⟨since, hdue, hdeadline, hanswer, -⟩ := hfaithful
  intro o ho
  rcases a.settle_cases now with ⟨hnone, hcome, heq⟩ | ⟨hnone, hcome, hover, heq⟩ |
    ⟨hnone, -, -, heq⟩ | ⟨-, heq⟩
  · -- The answer has come, and the deadline is not over.
    rw [heq] at ho
    obtain rfl : a.answer = o := Option.some.inj ho
    cases hd : b.delay with
    | none => simp [isDue, hdue, hd] at hcome
    | some d =>
      have hle : now ≤ min (since + d) (since + p.timeout) :=
        hpending _ (nextEvent_eq_some.2 ⟨hnone, by simp [hdue, hd, hdeadline]⟩)
      have hle' : since + d ≤ now := by simpa [isDue, hdue, hd] using hcome
      have hprompt : d ≤ p.timeout := by omega
      simp [Behaviour.outcomeWithin, hd, hprompt, hanswer]
  · -- The deadline has come, and the answer has not.
    rw [heq] at ho
    obtain rfl : Outcome.failed RecordError.timeout.message = o := Option.some.inj ho
    cases hd : b.delay with
    | none => simp [Behaviour.outcomeWithin, hd]
    | some d =>
      have hlate : now < since + d := by simpa [isDue, hdue, hd] using hcome
      have hlong : ¬d ≤ p.timeout := by omega
      simp [Behaviour.outcomeWithin, hd, hlong]
  · rw [heq] at ho
    exact hended o ho
  · rw [heq] at ho
    exact hended o ho

theorem Attempt.punctual_start (p : Policy) (now row call : Nat) (b : Behaviour) :
    (Attempt.start p now row call b).Punctual p b now := by
  refine Attempt.Punctual.settle ⟨⟨now, rfl, rfl, rfl, by simp⟩, by simp, ?_⟩
  intro t ht
  obtain ⟨-, rfl⟩ := nextEvent_eq_some.1 ht
  cases b.delay <;> simp

/-! ## Batches noted in time -/

/-- Every row under way is punctual, and every result is the one of its row by itself. -/
structure Punctual (p : Policy) (backend : Backend) (now : Nat) (x : Run α × World) : Prop where
  calls : x.2.calls = x.1.started
  flight : ∀ a ∈ x.1.flight, a.Punctual p (backend a.row) now
  results : ∀ y ∈ x.1.results,
    y = RowResult.of y.row ((backend y.row).outcomeWithin p.timeout)

theorem punctual_start (payloads : List α) {w : World} (h : w.calls = 0) :
    Punctual p backend now (Run.start payloads, w) :=
  ⟨h, by simp [Run.start], by simp [Run.start]⟩

theorem punctual_tick {x y : Run α × World} (tick : Tick p backend now x y)
    (h : Punctual p backend now x) : Punctual p backend now y := by
  obtain ⟨hcalls, hflight, hresults⟩ := h
  cases tick with
  | note running =>
    refine ⟨?_, ?_, hresults⟩
    · simpa only [started_settle] using hcalls
    · intro a ha
      obtain ⟨b, hb, rfl⟩ := List.mem_map.1 ha
      simpa only [Attempt.row_settle] using (hflight b hb).settle
  | @start r w q qs running next room unfinished =>
    have hcalls' : w.calls = r.started := hcalls
    refine ⟨?_, ?_, hresults⟩
    · simp only [started_start, World.call, hcalls']
    · intro a ha
      rcases List.mem_append.1 ha with hold | hnew
      · exact hflight a hold
      · -- The call of the new row has the number of the row.
        obtain rfl := List.mem_singleton.1 hnew
        simpa only [Attempt.row_start, hcalls'] using
          Attempt.punctual_start p now r.started r.started (backend r.started)
  | @collect r w a rest o running first ended =>
    have hhead : a.Punctual p (backend a.row) now := hflight a (by simp [first])
    refine ⟨?_, fun b hb => hflight b (by simp [first, show b ∈ rest from hb]), ?_⟩
    · simpa only [started_collect first, World.calls_collect] using hcalls
    · intro y hy
      rcases List.mem_append.1 hy with hold | hnew
      · exact hresults y hold
      · obtain rfl := List.mem_singleton.1 hnew
        rw [hhead.ended o ended]
        rfl
  | cancel running cancelled => exact ⟨hcalls, hflight, hresults⟩
  | finish running untouched done => exact ⟨hcalls, hflight, hresults⟩

/-- Time may pass to the next event. -/
theorem Punctual.later {x : Run α × World} (h : Punctual p backend now x) {t : Nat}
    (next : x.1.nextEvent = some t) : Punctual p backend t x := by
  refine ⟨h.calls, fun a ha => ?_, h.results⟩
  refine ⟨(h.flight a ha).faithful, (h.flight a ha).ended, fun u hu => ?_⟩
  have hmem : u ∈ x.1.flight.filterMap Attempt.nextEvent := List.mem_filterMap.2 ⟨a, ha, hu⟩
  exact (List.min?_eq_some_iff.1 next).2 u hmem

/-- Where rows are in order and noted in time, the results are those of the rows by
themselves. -/
theorem Punctual.results_eq {payloads : List α} {x : Run α × World}
    (h : Punctual p backend now x)
    (rows : x.1.results.map RowResult.row = List.range payloads.length) :
    x.1.results = ownResults p.timeout backend payloads := by
  have hlength : x.1.results.length = payloads.length := by
    simpa using congrArg List.length rows
  refine List.ext_getElem (by simpa [ownResults] using hlength) fun i hi hi' => ?_
  have hrow : (x.1.results[i]).row = i := by
    have hget := congrArg (fun l => l[i]?) rows
    simpa [List.getElem?_range, hi, hlength ▸ hi] using hget
  rw [h.results _ (List.getElem_mem hi), hrow]
  simp [ownResults]

end SheetIntake.Batch
