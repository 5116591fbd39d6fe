import SheetIntake.Proofs.Batch.Punctual

/-! # Batches that wait

    A poll ends the batch or leaves it waiting for its first row, with nothing left that has
    already come (`poll_ended_or_waiting`).  The number of rows that are not finished never
    grows, and a poll at the time of the next event brings it down (`unfinished_poll_lt`), so
    a batch cannot wait more often than it has rows. -/

namespace SheetIntake.Batch

variable {α : Type} {p : Policy} {backend : Backend} {now : Nat}

/-! ## Batches that wait -/

/-- Everything that is to happen to the rows under way lies ahead. -/
def Ahead (now : Nat) (x : Run α × World) : Prop :=
  ∀ a ∈ x.1.flight, ∀ t, a.nextEvent = some t → now < t

theorem ahead_noted (now : Nat) (r : Run α) (w : World) :
    Ahead now ({ r with flight := r.flight.map (Attempt.settle now) }, w) := by
  intro a ha t ht
  obtain ⟨b, -, rfl⟩ := List.mem_map.1 ha
  exact Attempt.lt_nextEvent_settle ht

theorem ahead_tick {x y : Run α × World} (tick : Tick p backend now x y) (h : Ahead now x) :
    Ahead now y := by
  cases tick with
  | @note r w running => exact ahead_noted now r _
  | @start r w q qs running next room unfinished =>
    intro a ha t ht
    rcases List.mem_append.1 ha with hold | hnew
    · exact h a hold t ht
    · obtain rfl := List.mem_singleton.1 hnew
      exact Attempt.lt_nextEvent_settle ht
  | @collect r w a rest o running first ended =>
    exact fun b hb => h b (by simp [first, show b ∈ rest from hb])
  | cancel running cancelled => exact h
  | finish running untouched done => exact h

/-- The batch waits for its first row, and for nothing that has already come. -/
structure Waiting (now : Nat) (x : Run α × World) : Prop where
  running : x.1.verdict = none
  head : ∃ a rest, x.1.flight = a :: rest ∧ a.outcome = none
  ahead : Ahead now x

theorem Waiting.next {x : Run α × World} (h : Waiting now x) :
    ∃ t, x.1.nextEvent = some t ∧ ∃ a ∈ x.1.flight, a.nextEvent = some t := by
  obtain ⟨a, rest, hflight, hnone⟩ := h.head
  have hmem : min (a.due.getD a.deadline) a.deadline ∈ x.1.flight.filterMap Attempt.nextEvent :=
    List.mem_filterMap.2 ⟨a, by simp [hflight], Attempt.nextEvent_eq_some.2 ⟨hnone, rfl⟩⟩
  cases hmin : x.1.nextEvent with
  | none => simp [List.min?_eq_none_iff.1 hmin] at hmem
  | some t => exact ⟨t, rfl, List.mem_filterMap.1 (List.min?_eq_some_iff.1 hmin).1⟩

/-- Rows wait in the queue only if the window is full or its first row is finished. -/
theorem startRows_stops (p : Policy) (backend : Backend) (now row : Nat) (flight : List Attempt)
    (w : World) (queue : List α)
    (h : (startRows p backend now row flight w queue).2.1 = []) :
    (startRows p backend now row flight w queue).1 = [] := by
  induction queue generalizing row flight w with
  | nil => rfl
  | cons q qs ih =>
    simp only [startRows] at h ⊢
    split at h
    · -- An empty window is not full, and it has no first row.
      rename_i hstop
      simp only at h
      simp [h, headFinished, Policy.width] at hstop
    · rename_i hgo
      rw [if_neg hgo]
      exact ih _ _ _ h

/-- A batch with rows left has a row under way once it has gone on. -/
theorem flight_proceed_ne_nil {r : Run α} {w : World} (h : r.remaining ≠ 0) :
    (r.proceed p backend now w).1.flight ≠ [] := by
  intro hflight
  have hqueue : (r.proceed p backend now w).1.queue = [] :=
    startRows_stops p backend now r.started _ _ r.queue hflight
  rw [← Run.remaining_proceed p backend now r w] at h
  exact h (by simp [Run.remaining, hflight, hqueue])

theorem head_of_collected?_eq_none {r : Run α} (h : r.collected? = none) (ne : r.flight ≠ []) :
    ∃ a rest, r.flight = a :: rest ∧ a.outcome = none := by
  cases hflight : r.flight with
  | nil => exact absurd hflight ne
  | cons a rest => exact ⟨a, rest, rfl, by simpa [Run.collected?, hflight] using h⟩

/-- A poll ends the batch or leaves it waiting. -/
theorem poll_ended_or_waiting (p : Policy) (backend : Backend) (now : Nat) (r : Run α)
    (w : World) :
    (r.poll p backend now w).1.verdict.isSome = true ∨
      Waiting now (r.poll p backend now w) := by
  refine Run.poll.induct_unfolding p backend now
    (fun _ _ x => x.1.verdict.isSome = true ∨ Waiting now x)
    ?ended ?cancelled ?done ?collected ?overtaken ?waiting r w
  case ended => exact fun r w hv => .inl hv
  case cancelled => exact fun r w _ _ => .inl rfl
  case done => exact fun r w _ _ _ => .inl rfl
  case collected => exact fun r w _ _ _ _ _ _ ih => ih
  case overtaken => exact fun r w _ _ _ _ r' w' _ _ => .inl rfl
  case waiting =>
    intro r w hv _ hremaining hcol r' w' hp _
    have running : r.verdict = none := by simpa using hv
    have hahead : Ahead now (r.proceed p backend now w) :=
      (noted_ticks p backend now r w running).keep ahead_tick (ahead_noted now r _)
    have hhead := head_of_collected?_eq_none hcol (flight_proceed_ne_nil hremaining)
    have hsame := verdict_proceed p backend now r w
    rw [hp] at hahead hhead hsame
    exact .inr ⟨hsame.trans running, hhead, hahead⟩

/-- A poll that leaves the batch open has found it not cancelled. -/
theorem untouched_of_open {r : Run α} {w : World}
    (h : ¬(r.poll p backend now w).1.verdict.isSome = true) : w.cancelled = false := by
  by_contra hc
  have hcancelled : w.cancelled = true := by simpa using hc
  cases hv : r.verdict with
  | none => exact h (by rw [poll_of_cancelled hv hcancelled]; rfl)
  | some v => exact h (by rw [Run.poll, if_pos (by simp [hv])]; simp [hv])

/-! ## Counting the rows that are not finished -/

/-- Whether the row is not finished yet. -/
def Attempt.isOpen (a : Attempt) : Bool := a.outcome.isNone

@[simp] theorem Attempt.isOpen_iff {a : Attempt} : a.isOpen = true ↔ a.outcome = none :=
  Option.isNone_iff_eq_none

/-- The number of rows that are not finished. -/
def Run.unfinished (r : Run α) : Nat := r.queue.length + r.flight.countP Attempt.isOpen

theorem Waiting.unfinished_pos {x : Run α × World} (h : Waiting now x) : 0 < x.1.unfinished := by
  obtain ⟨a, rest, hflight, hnone⟩ := h.head
  rw [Run.unfinished, hflight, List.countP_cons, if_pos (Attempt.isOpen_iff.2 hnone)]
  omega

/-- What has ended stays so. -/
theorem Attempt.isOpen_of_settle {a : Attempt} (h : (a.settle now).isOpen = true) :
    a.isOpen = true := by
  rw [isOpen_iff] at h ⊢
  rcases a.settle_cases now with ⟨hnone, -⟩ | ⟨hnone, -⟩ | ⟨hnone, -⟩ | ⟨-, heq⟩
  · exact hnone
  · exact hnone
  · exact hnone
  · rwa [heq] at h

/-- What has come ends an attempt. -/
theorem Attempt.not_isOpen_settle {a : Attempt} {t : Nat} (next : a.nextEvent = some t)
    (come : t ≤ now) : ¬(a.settle now).isOpen = true := by
  rw [isOpen_iff]
  rcases a.settle_cases now with ⟨-, -, heq⟩ | ⟨-, -, -, heq⟩ | ⟨-, -, -, heq⟩ | ⟨hsome, heq⟩
  · simp [heq]
  · simp [heq]
  · have hahead : now < t := lt_nextEvent_settle (heq.symm ▸ next)
    omega
  · rw [heq]
    exact Option.isSome_iff_ne_none.1 hsome

theorem countP_settle_le (now : Nat) (flight : List Attempt) :
    (flight.map (Attempt.settle now)).countP Attempt.isOpen ≤
      flight.countP Attempt.isOpen := by
  rw [List.countP_map]
  exact List.countP_mono_left fun a _ h => Attempt.isOpen_of_settle h

theorem unfinished_tick {x y : Run α × World} (tick : Tick p backend now x y) :
    y.1.unfinished ≤ x.1.unfinished := by
  cases tick with
  | @note r w running => exact Nat.add_le_add_left (countP_settle_le now r.flight) _
  | @start r w q qs running next room unfinished =>
    -- The row leaves the queue, and counts at most once under way.
    simp only [Run.unfinished, next, List.length_cons, List.countP_append]
    have : [Attempt.start p now r.started w.calls (backend w.calls)].countP
        Attempt.isOpen ≤ 1 := List.countP_le_length
    omega
  | @collect r w a rest o running first ended =>
    simp [Run.unfinished, first, ended]
  | cancel running cancelled => exact Nat.le_refl _
  | finish running untouched done => exact Nat.le_refl _

theorem Ticks.unfinished_le {x y : Run α × World} (ticks : Ticks p backend now x y) :
    y.1.unfinished ≤ x.1.unfinished :=
  ticks.keep (I := fun y => y.1.unfinished ≤ x.1.unfinished)
    (fun tick h => Nat.le_trans (unfinished_tick tick) h) (Nat.le_refl _)

/-- A row to which something happens is finished. -/
theorem countP_settle_lt {flight : List Attempt} {a : Attempt} (ha : a ∈ flight) {t : Nat}
    (next : a.nextEvent = some t) (come : t ≤ now) :
    (flight.map (Attempt.settle now)).countP Attempt.isOpen <
      flight.countP Attempt.isOpen := by
  obtain ⟨before, after, rfl⟩ := List.append_of_mem ha
  have hopen : a.isOpen = true := Attempt.isOpen_iff.2 (Attempt.nextEvent_eq_some.1 next).1
  have hclosed : ¬(a.settle now).isOpen = true := Attempt.not_isOpen_settle next come
  have hbefore := countP_settle_le now before
  have hafter := countP_settle_le now after
  simp only [List.map_append, List.map_cons, List.countP_append, List.countP_cons, if_pos hopen,
    if_neg hclosed]
  omega

theorem unfinished_proceed_lt {r : Run α} (w : World) (running : r.verdict = none)
    {a : Attempt} (ha : a ∈ r.flight) {t : Nat} (next : a.nextEvent = some t) (come : t ≤ now) :
    (r.proceed p backend now w).1.unfinished < r.unfinished := by
  have hnoted := (noted_ticks p backend now r w running).unfinished_le
  have hlt := countP_settle_lt ha next come
  simp only [Run.unfinished] at hnoted ⊢
  omega

/-- A poll at a time at which something happens to a row under way finishes a row. -/
theorem unfinished_poll_lt {r : Run α} {w : World} (running : r.verdict = none)
    (untouched : w.cancelled = false) {a : Attempt} (ha : a ∈ r.flight) {t : Nat}
    (next : a.nextEvent = some t) (come : t ≤ now) :
    (r.poll p backend now w).1.unfinished < r.unfinished := by
  have hproceed : (r.proceed p backend now w).1.unfinished < r.unfinished :=
    unfinished_proceed_lt w running ha next come
  have hleft : r.remaining ≠ 0 := by
    have hpos := List.length_pos_of_mem ha
    simp only [Run.remaining]
    omega
  rw [Run.poll, if_neg (by simp [running]), if_neg (by simp [untouched]), if_neg hleft]
  split
  · -- The first row is collected, and no tick after that makes a row unfinished.
    rename_i result flight hcol
    obtain ⟨b, o, hflight, hended, -⟩ := collected?_eq_some hcol
    refine Nat.lt_of_le_of_lt (poll_ticks ..).unfinished_le ?_
    simpa [Run.unfinished, show _ = b :: flight from hflight, hended] using hproceed
  · split
    rename_i r' w' hp
    rw [hp] at hproceed
    split
    · exact hproceed
    · exact hproceed

end SheetIntake.Batch
