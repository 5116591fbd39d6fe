import SheetIntake.Proofs.Batch.Rows
import SheetIntake.Proofs.Service.Soundness

/-! # The calls made for a session

    All calls for a session are made by one batch, for the batch carries its submission
    and is never succeeded by another.  So the calls for the session are the calls of that
    batch, one for every row it has started and in the order of the rows (`Submission.Booked`).
    Hence no row is called twice (`row_called_at_most_once`). -/

namespace SheetIntake.Service

/-- The `k`-th call of the service was made for a row of a session. -/
def Made (s : State) (h row k : Nat) : Prop :=
  ∃ c, s.calls[k]? = some c ∧ c.handle = h ∧ c.row = row

/-- The calls for the session of the batch are those of the batch: one for every row that it has
started, in the order of the rows. -/
structure Submission.Booked (env : Surroundings) (s : State) (b : Submission) : Prop where
  rows : (s.callsOf b.handle).map Call.row = List.range b.run.started
  scope : ∀ c ∈ s.callsOf b.handle, c.scope = b.scope
  orderly : b.run.Orderly
  tracked : b.run.Tracked env.policy env.backend.quiet (Made s b.handle)

/-- The calls that have been made are those of the batches. -/
structure Ledger (env : Surroundings) (s : State) : Prop where
  unsubmitted : ∀ {h : Nat}, (∀ (t : Nat) (b : Submission), s.tasks[t]? = some (.submission b) →
    b.handle ≠ h) → s.callsOf h = []
  booked : ∀ {t : Nat} {b : Submission}, s.tasks[t]? = some (.submission b) → b.Booked env s

/-! ## The calls of one poll -/

section poll
variable {b : Submission} {run : Batch.Run Payload} {p : Batch.Policy} {backend : Batch.Backend}
  {now : Nat} {w : Batch.World}

/-- A poll takes the rows that it starts off the front of the queue. -/
theorem started_poll (polled : run = (b.run.poll p backend now w).1) :
    b.run.started ≤ run.started ∧ run.queue = b.run.queue.drop (run.started - b.run.started) ∧
      run.started + run.queue.length = b.run.started + b.run.queue.length := by
  have honward := Batch.poll_onward p backend now b.run w
  subst polled
  exact ⟨honward.started_le, honward.queue, honward.length⟩

/-- A poll makes one call for every row it starts. -/
theorem newCalls_eq (polled : run = (b.run.poll p backend now w).1) :
    newCalls b run = (b.run.queue.take (run.started - b.run.started)).mapIdx fun i payload =>
      { handle := b.handle, row := b.run.started + i, scope := b.scope, payload } := by
  obtain ⟨hle, -, hlength⟩ := started_poll polled
  have hcount : b.run.queue.length - run.queue.length = run.started - b.run.started := by omega
  rw [newCalls, hcount]

theorem length_newCalls (polled : run = (b.run.poll p backend now w).1) :
    (newCalls b run).length = run.started - b.run.started := by
  obtain ⟨hle, -, hlength⟩ := started_poll polled
  rw [newCalls_eq polled, List.length_mapIdx, List.length_take]
  omega

theorem row_newCalls {i : Nat} (hi : i < (newCalls b run).length) :
    ((newCalls b run)[i]).row = b.run.started + i := by
  simp [newCalls]

theorem rows_newCalls (polled : run = (b.run.poll p backend now w).1) :
    (newCalls b run).map Call.row =
      List.range' b.run.started (run.started - b.run.started) := by
  refine List.ext_getElem (by simp [length_newCalls polled]) fun i hi hi' => ?_
  rw [List.getElem_map, row_newCalls, List.getElem_range', Nat.one_mul]

/-- The payloads that are called are those that leave the queue. -/
theorem payloads_newCalls (polled : run = (b.run.poll p backend now w).1) :
    (newCalls b run).map Call.payload ++ run.queue = b.run.queue := by
  obtain ⟨-, hqueue, -⟩ := started_poll polled
  have hpayloads : (newCalls b run).map Call.payload =
      b.run.queue.take (run.started - b.run.started) := by
    rw [newCalls_eq polled]
    refine List.ext_getElem (by simp) fun i hi hi' => ?_
    simp
  rw [hpayloads, hqueue]
  exact List.take_append_drop _ _

theorem scope_newCalls {c : Call} (hc : c ∈ newCalls b run) : c.scope = b.scope := by
  simp only [newCalls, List.mem_mapIdx] at hc
  obtain ⟨i, hi, rfl⟩ := hc
  rfl

end poll

/-! ## Every move keeps the ledger -/

section
variable {env : Surroundings} {s s' : State} {l : Label} {t h : Nat} {y : Task} {H : Handle}
  {e : Effect}

theorem ledger_start (env : Surroundings) (firstId wall : Nat) :
    Ledger env (State.start firstId wall) := by
  constructor <;> simp [State.start, State.callsOf]

/-- Calls stay where they are in the books. -/
theorem Made.move {k row n : Nat} (hmade : Made s k row n) (m : Move env s l s') :
    Made s' k row n := by
  obtain ⟨c, hc, hrest⟩ := hmade
  cases m with
  | act =>
    obtain ⟨hlt, -⟩ := List.getElem?_eq_some_iff.1 hc
    exact ⟨c, (List.getElem?_append_left hlt).trans hc, hrest⟩
  | _ => exact ⟨c, hc, hrest⟩

/-- Only the batch of a session makes calls for it. -/
theorem Acts.calls_eq_nil (acts : Acts env s t h l y H e) (hc : y.carries ≠ some h) :
    e.calls = [] := by
  cases acts with
  | advance of => exact absurd (congrArg some of) hc
  | _ => rfl

/-- For a session whose submission is carried by another task no calls are made. -/
theorem Sound.callsOf_other (hs : Sound s) (ht : s.tasks[t]? = some y)
    (acts : Acts env s t h l y H e) {u k : Nat} {z : Task} (hne : u ≠ t)
    (hz : s.tasks[u]? = some z) (hc : z.carries = some k) :
    (s.apply t h e).callsOf k = s.callsOf k := by
  by_cases hkh : k = h
  · subst hkh
    have hnone : e.calls = [] := acts.calls_eq_nil fun hcy => hne (hs.alone hz ht hc hcy)
    rw [acts.callsOf_self, hnone, List.append_nil]
  · exact acts.callsOf_ne hkh

/-- A handler that goes somewhere else is no batch before or after. -/
theorem batches_setTask {x x' : Handler} (ht : s.tasks[t]? = some (.handler x)) (u : Nat)
    (b : Submission) : (s.setTask t (.handler x')).tasks[u]? = some (.submission b) ↔
      s.tasks[u]? = some (.submission b) := by
  by_cases hut : u = t
  · subst hut
    obtain ⟨hlt, -⟩ := List.getElem?_eq_some_iff.1 ht
    rw [ht, State.setTask, List.getElem?_set_self hlt]
    simp
  · rw [State.setTask, List.getElem?_set_ne (Ne.symm hut)]

/-- Batches do not go, and those that have ended stay as they have ended. -/
theorem Move.batch_kept (m : Move env s l s') {u : Nat} {b : Submission}
    (hb : s.tasks[u]? = some (.submission b)) :
    ∃ b', s'.tasks[u]? = some (.submission b') ∧ b'.handle = b.handle ∧
      (b.run.verdict ≠ none → b'.run = b.run) := by
  cases m with
  | stay | pass | sweep => exact ⟨b, hb, rfl, fun _ => rfl⟩
  | arrive request =>
    obtain ⟨hlt, -⟩ := List.getElem?_eq_some_iff.1 hb
    exact ⟨b, (List.getElem?_append_left hlt).trans hb, rfl, fun _ => rfl⟩
  | decline task | create task | leave task =>
    exact ⟨b, (batches_setTask task u b).2 hb, rfl, fun _ => rfl⟩
  | @act l t h y H e task handle acts =>
    by_cases hut : u = t
    · subst hut
      obtain rfl := Option.some.inj (hb.symm.trans task)
      cases acts with
      | @advance b H run of unfinished running =>
        exact ⟨{ b with run }, task_apply_self _ task, rfl, fun hended => absurd running hended⟩
      | abandon | record =>
        exact ⟨{ b with finished := true }, task_apply_self _ task, rfl, fun _ => rfl⟩
    · exact ⟨b, task_apply_ne e hut hb, rfl, fun _ => rfl⟩

/-- How a batch that is there after a step has come about. -/
inductive Batched (env : Surroundings) (s s' : State) (u : Nat) : Submission → Prop where
  | kept {b : Submission} (task : s.tasks[u]? = some (.submission b))
      (calls : s'.callsOf b.handle = s.callsOf b.handle) : Batched env s s' u b
  | advanced {b : Submission} {run : Batch.Run Payload} (task : s.tasks[u]? = some (.submission b))
      (polled : run = (b.run.poll env.policy env.backend.quiet s.clock
        { cancelled := s.isCancelled b.token, calls := s.calls.length, events := [] }).1)
      (calls : s'.calls = s.calls ++ newCalls b run) : Batched env s s' u { b with run }
  | closed {b : Submission} (task : s.tasks[u]? = some (.submission b))
      (calls : s'.callsOf b.handle = s.callsOf b.handle) :
      Batched env s s' u { b with finished := true }
  | launched {t h token : Nat} {x : Handler} {H : Handle} {d : Draft} {id : Uuid}
      {organization : String} {caller : Option String} {given : Option (List LookupEntry)}
      {table : List LookupEntry} (task : s.tasks[t]? = some (.handler x))
      (at_ : x.stage = .building h token table)
      (asks : x.request = .submit id organization caller given)
      (handle : s.handles[h]? = some H) (submitted : H.session.stage = .submitting d)
      (calls : s'.callsOf h = s.callsOf h) :
      Batched env s s' u
        { handle := h
          token
          scope := Turn.scope organization caller
          run := Batch.Run.start (Payload.ofRows H.session.mode d.table.rows d.mapping table)
          finished := false }

theorem Move.batched (hs : Sound s) (m : Move env s l s') {u : Nat} {b : Submission}
    (hb : s'.tasks[u]? = some (.submission b)) : Batched env s s' u b := by
  cases m with
  | stay | pass | sweep => exact .kept hb rfl
  | arrive request =>
    rcases getElem?_concat_cases hb with hold | ⟨-, hnew⟩
    · exact .kept hold rfl
    · cases hnew
  | decline task | create task | leave task => exact .kept ((batches_setTask task u b).1 hb) rfl
  | @act l t h y H e task handle acts =>
    rcases task_apply_cases e hb with ⟨rfl, hnew⟩ | ⟨hne, hold⟩ | ⟨-, hnew⟩
    · cases acts with
      | advance of unfinished running polled =>
        obtain rfl := Task.submission.inj hnew
        exact .advanced task polled rfl
      | abandon | record =>
        obtain rfl := Task.submission.inj hnew
        exact .closed task (by simp [State.callsOf, State.apply])
      | _ => cases hnew
    · exact .kept hold (hs.callsOf_other task acts hne hold rfl)
    · cases acts with
      | launch at_ asks free submitted =>
        obtain rfl := Task.submission.inj (List.mem_singleton.1 (List.mem_of_getElem? hnew))
        exact .launched task at_ asks handle submitted (by simp [State.callsOf, State.apply])
      | order => simpa using List.mem_of_getElem? hnew
      | _ => simp at hnew

/-- A batch that is as it was, of whose session the calls are as they were, stays booked. -/
theorem Submission.Booked.move {b b' : Submission} (hb : b.Booked env s) (m : Move env s l s')
    (hhandle : b'.handle = b.handle) (hscope : b'.scope = b.scope) (hrun : b'.run = b.run)
    (hcalls : s'.callsOf b.handle = s.callsOf b.handle) : b'.Booked env s' where
  rows := by rw [hhandle, hrun, hcalls]; exact hb.rows
  scope := by rw [hhandle, hscope, hcalls]; exact hb.scope
  orderly := hrun ▸ hb.orderly
  tracked := by
    rw [hhandle, hrun]
    exact hb.tracked.mono fun _ _ hmade => hmade.move m

/-- A batch that has just been started has made no calls. -/
theorem booked_start {k token : Nat} {scope : Backend.Scope} {payloads : List Payload}
    (hcalls : s.callsOf k = []) :
    Submission.Booked env s
      { handle := k, token, scope, run := Batch.Run.start payloads, finished := false } where
  rows := by rw [hcalls]; rfl
  scope := by simp [hcalls]
  orderly := Batch.Run.orderly_start payloads
  tracked := Batch.Run.tracked_start payloads _

theorem callsOf_advance {b : Submission} {run : Batch.Run Payload}
    (hcalls : s'.calls = s.calls ++ newCalls b run) :
    s'.callsOf b.handle = s.callsOf b.handle ++ newCalls b run := by
  have hall : (newCalls b run).filter (fun c => c.handle == b.handle) = newCalls b run :=
    List.filter_eq_self.2 fun c hc => by simp [handle_of_newCalls hc]
  rw [State.callsOf, hcalls, List.filter_append, hall]
  rfl

/-- A batch that goes on makes the calls for the rows that it starts. -/
theorem Submission.Booked.advance {b : Submission} {run : Batch.Run Payload}
    (hb : b.Booked env s)
    (polled : run = (b.run.poll env.policy env.backend.quiet s.clock
      { cancelled := s.isCancelled b.token, calls := s.calls.length, events := [] }).1)
    (hcalls : s'.calls = s.calls ++ newCalls b run) :
    Submission.Booked env s' { b with run } := by
  have hof := callsOf_advance hcalls
  obtain ⟨hle, -, -⟩ := started_poll polled
  refine ⟨?rows, ?scope, ?orderly, ?tracked⟩
  case rows =>
    -- The rows called so far and the new ones make one range.
    have hrange := List.range'_append_1 (s := 0) (m := b.run.started)
      (n := run.started - b.run.started)
    rw [Nat.zero_add, Nat.add_sub_cancel' hle] at hrange
    rw [hof, List.map_append, hb.rows, rows_newCalls polled, List.range_eq_range', hrange,
      List.range_eq_range']
  case scope =>
    intro c hc
    rw [hof] at hc
    rcases List.mem_append.1 hc with hold | hnew
    · exact hb.scope c hold
    · exact scope_newCalls (b := b) hnew
  case orderly => exact polled ▸ hb.orderly.poll _
  case tracked =>
    have htracked := hb.tracked.poll s.clock
      { cancelled := s.isCancelled b.token, calls := s.calls.length, events := [] }
    rw [← polled] at htracked
    refine htracked.mono fun row k hmade => ?_
    rcases hmade with ⟨c, hc, hhandle, hrow⟩ | hmade
    · obtain ⟨hlt, -⟩ := List.getElem?_eq_some_iff.1 hc
      exact ⟨c, by rw [hcalls, List.getElem?_append_left hlt]; exact hc, hhandle, hrow⟩
    · -- The call is one of this poll; its place in the books tells the row.
      obtain ⟨hfrom, hto, hplace⟩ := hmade
      rw [← polled] at hto
      simp only at hfrom hplace
      have hlt : row - b.run.started < (newCalls b run).length := by
        rw [length_newCalls polled]
        omega
      refine ⟨(newCalls b run)[row - b.run.started], ?_,
        handle_of_newCalls (b := b) (List.getElem_mem hlt), ?_⟩
      · rw [hcalls, List.getElem?_append_right (by omega)]
        rw [show k - s.calls.length = row - b.run.started by omega]
        exact List.getElem?_eq_getElem hlt
      · rw [row_newCalls hlt]
        omega

/-- The calls for a session in full, by the payloads of the rows. -/
theorem Submission.Booked.callsOf_eq {b : Submission} (hb : b.Booked env s) {ps : List Payload}
    (hps : (s.callsOf b.handle).map Call.payload = ps) :
    s.callsOf b.handle = ps.mapIdx fun i payload =>
      { handle := b.handle, row := i, scope := b.scope, payload } := by
  subst hps
  refine List.ext_getElem (by simp) fun i hi hi' => ?_
  have hmem := List.getElem_mem hi
  have hhandle : ((s.callsOf b.handle)[i]).handle = b.handle := by
    simpa using (List.mem_filter.1 hmem).2
  have hrow : ((s.callsOf b.handle)[i]).row = i := by
    have hrows : some ((s.callsOf b.handle)[i]).row = (List.range b.run.started)[i]? := by
      rw [← hb.rows, List.getElem?_map, List.getElem?_eq_getElem hi]
      rfl
    obtain ⟨hlt, hget⟩ := List.getElem?_eq_some_iff.1 hrows.symm
    rw [← hget, List.getElem_range]
  -- A call is given by its session, its row, its scope and its payload.
  have hwhole : ∀ c : Call, c.handle = b.handle → c.row = i → c.scope = b.scope →
      c = { handle := b.handle, row := i, scope := b.scope, payload := c.payload } := by
    rintro ⟨⟩ rfl rfl rfl
    rfl
  rw [List.getElem_mapIdx, List.getElem_map]
  exact hwhole _ hhandle hrow (hb.scope _ hmem)

/-- As long as a handler carries the submission, there has been no batch, and so no call. -/
theorem Ledger.callsOf_eq_nil (hs : Sound s) (hl : Ledger env s) {x : Handler}
    (ht : s.tasks[t]? = some (.handler x)) (hc : x.carries = some h) : s.callsOf h = [] := by
  refine hl.unsubmitted fun u b hb hbh => ?_
  -- The batch would carry the submission as well, so it would be the handler.
  obtain rfl := hs.alone hb ht (congrArg some hbh) hc
  simp [ht] at hb

theorem Ledger.booked_move (hs : Sound s) (hl : Ledger env s) (m : Move env s l s') {u : Nat}
    {b : Submission} (hb : s'.tasks[u]? = some (.submission b)) : b.Booked env s' := by
  cases m.batched hs hb with
  | kept task calls => exact (hl.booked task).move m rfl rfl rfl calls
  | advanced task polled calls => exact (hl.booked task).advance polled calls
  | closed task calls => exact (hl.booked task).move m rfl rfl rfl calls
  | launched task at_ asks handle submitted calls =>
    refine booked_start ?_
    rw [calls]
    exact hl.callsOf_eq_nil hs task (Handler.carries_building at_)

theorem Ledger.unsubmitted_move (hl : Ledger env s) (m : Move env s l s') {k : Nat}
    (hnone : ∀ (u : Nat) (b : Submission), s'.tasks[u]? = some (.submission b) → b.handle ≠ k) :
    s'.callsOf k = [] := by
  have hbefore : s.callsOf k = [] := by
    refine hl.unsubmitted fun u b hb => ?_
    obtain ⟨b', hb', hhandle, -⟩ := m.batch_kept hb
    exact hhandle ▸ hnone u b' hb'
  cases m with
  | @act l t h y H e task handle acts =>
    by_cases hkh : k = h
    · subst hkh
      -- Only a batch makes calls, and after the move there is none of this session.
      have hcalls : e.calls = [] := by
        cases acts with
        | @advance b H run of => exact absurd of (hnone t { b with run } (task_apply_self _ task))
        | _ => rfl
      rw [acts.callsOf_self, hbefore, hcalls, List.append_nil]
    · rw [acts.callsOf_ne hkh, hbefore]
  | _ => exact hbefore

theorem Ledger.move (hs : Sound s) (hl : Ledger env s) (m : Move env s l s') : Ledger env s' :=
  ⟨hl.unsubmitted_move m, hl.booked_move hs m⟩

/-- In every state that is reached, the calls are those of the batches. -/
theorem Reachable.ledger (hr : Reachable env s) : Ledger env s :=
  hr.keeps (ledger_start env) fun hs hl m => hl.move hs m

/-- The rows that have been called for a session are the first ones, in order. -/
theorem Ledger.rows_callsOf (hl : Ledger env s) (h : Nat) :
    ∃ n, (s.callsOf h).map Call.row = List.range n := by
  by_cases hbatch : ∃ (t : Nat) (b : Submission), s.tasks[t]? = some (.submission b) ∧ b.handle = h
  · obtain ⟨t, b, hb, rfl⟩ := hbatch
    exact ⟨b.run.started, (hl.booked hb).rows⟩
  · refine ⟨0, ?_⟩
    rw [hl.unsubmitted fun t b hb hbh => hbatch ⟨t, b, hb, hbh⟩]
    rfl

/-- No row of a session is ever called twice. -/
theorem row_called_at_most_once (hr : Reachable env s) (h row : Nat) :
    s.calls.countP (fun c => c.handle == h && c.row == row) ≤ 1 := by
  obtain ⟨n, hrows⟩ := hr.ledger.rows_callsOf h
  have hcount : s.calls.countP (fun c => c.handle == h && c.row == row) =
      ((s.callsOf h).map Call.row).count row := by
    rw [State.callsOf, List.count, List.countP_map, List.countP_filter]
    congr 1
    funext c
    simp [Bool.and_comm]
  rw [hcount, hrows]
  exact List.nodup_iff_count_le_one.1 List.nodup_range row

end

end SheetIntake.Service
