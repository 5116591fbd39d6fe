import SheetIntake.Proofs.Service.Cancellation
import SheetIntake.Proofs.Service.ExactlyOnce

/-! # The counter of a session and its batch

    The rows that have been dealt with are counted outside of the session: the batch counts them
    up, and a submission, a cancelling and a reset set the counter back.  Whether they keep to one
    another depends on the order of their steps.  `Counted` says what they always keep to: as long
    as the session is submitted the counter is the number of results of its batch, and without a
    batch, or once the session has been given up, it is zero.

    In between there is one moment at which this is not so.  A handler that gives the session up
    has to go on behind the lock to set the counter back, and the batch may count on until then.
    So a handler must not be dropped at that place (`Interrupted`). -/

namespace SheetIntake.Service

/-- In the course of the labels a handler has been dropped behind the lock, after it had given the
session up. -/
def Interrupted (env : Surroundings) (firstId wall : Nat) (labels : List Label) : Prop :=
  ∃ (before : List Label) (t : Nat) (later : List Label) (x : Handler) (h : Nat),
    labels = before ++ .drop t :: later ∧
    ((State.start firstId wall).after env before).tasks[t]? = some (.handler x) ∧
    x.stage = .inside h ∧ x.request.isSubmit = false

/-- How the counter of session `H` stands to its batch. -/
inductive Submission.Counts (s : State) (H : Handle) (b : Submission) : Prop where
  /-- The session is submitted, and the results of the batch are counted. -/
  | submitted {d : Draft} (progress : H.progress = b.run.results.length)
      (submits : H.session.Submits d) : Counts s H b
  /-- The session has just been given up, by a handler that still holds the lock. -/
  | locked {u : Nat} (progress : H.progress = b.run.results.length)
      (idle : H.session.stage = .idle) (holder : H.holder = some u) : Counts s H b
  /-- The counter has been set back, and the batch does not count any more. -/
  | cleared (progress : H.progress = 0) (idle : H.session.stage = .idle)
      (ended : H.token ∈ s.cancelled ∨ b.run.verdict ≠ none) : Counts s H b

/-- The counters of all sessions stand to their batches as they should. -/
structure Counted (s : State) : Prop where
  unsubmitted : ∀ {h : Nat} {H : Handle}, s.handles[h]? = some H →
    (∀ (t : Nat) (b : Submission), s.tasks[t]? = some (.submission b) → b.handle ≠ h) →
    H.progress = 0
  counts : ∀ {t : Nat} {b : Submission} {H : Handle}, s.tasks[t]? = some (.submission b) →
    s.handles[b.handle]? = some H → b.Counts s H

theorem counted_start (firstId wall : Nat) : Counted (State.start firstId wall) := by
  constructor <;> simp [State.start]

section
variable {env : Surroundings} {s s' : State} {l : Label} {t h : Nat} {y : Task} {H : Handle}
  {e : Effect} {b : Submission}

/-! ## What other tasks do to the counter of a batch -/

/-- A session that looks the same to the batch is counted the same. -/
theorem Submission.Counts.same {K : Handle} {b' : Submission} (hc : b.Counts s H)
    (hrun : b'.run = b.run) (hsession : K.session = H.session) (hprogress : K.progress = H.progress)
    (hholder : K.holder = H.holder) (htoken : K.token = H.token)
    (hcancelled : ∀ token ∈ s.cancelled, token ∈ s'.cancelled) : b'.Counts s' K := by
  cases hc with
  | submitted progress submits =>
    exact .submitted (hprogress.trans (hrun ▸ progress)) (hsession ▸ submits)
  | locked progress idle holder =>
    exact .locked (hprogress.trans (hrun ▸ progress)) (hsession ▸ idle) (hholder.trans holder)
  | cleared progress idle ended =>
    refine .cleared (hprogress.trans progress) (hsession ▸ idle) ?_
    rw [htoken, hrun]
    exact ended.imp_left (hcancelled _)

/-- Setting the counter back under a free lock is in order once the batch has ended. -/
theorem Submission.Counts.restart (hc : b.Counts s H) (free : H.holder = none)
    (unsubmitted : ∀ d, H.session.stage ≠ .submitting d)
    (concluded : ∀ d m, H.session.stage = .completed d m → b.run.verdict ≠ none) :
    H.token ∈ s.cancelled ∨ b.run.verdict ≠ none := by
  cases hc with
  | submitted progress submits =>
    rcases submits with hsubmitting | ⟨m, hcompleted⟩
    · exact absurd hsubmitting (unsubmitted _)
    · exact .inr (concluded _ m hcompleted)
  | locked progress idle holder => simp [free] at holder
  | cleared progress idle ended => exact ended

/-- A task that does not carry the submission leaves the counter and the batch in order. -/
theorem Acts.counts_other (acts : Acts env s t h l y H e) (hfits : y.Fits t H)
    (hc : b.Counts s H) (late : H.session.isLate = true) (hother : y.carries ≠ some h)
    (concluded : ∀ d m, H.session.stage = .completed d m → b.run.verdict ≠ none)
    (kept : ∀ x, y = .handler x → x.stage = .inside h → l = .drop t → x.request.isSubmit = true) :
    b.Counts (s.apply t h e) e.handle := by
  have hcancelled : ∀ token ∈ s.cancelled, token ∈ (s.apply t h e).cancelled :=
    fun _ htoken => List.mem_append_right _ htoken
  cases acts with
  | edit at_ asks free reviewed | enter at_ asks free reviewed =>
    simp [Session.isLate, reviewed] at late
  | restart at_ asks free _ unsubmitted =>
    exact .cleared rfl rfl ((hc.restart free unsubmitted concluded).imp_left (hcancelled _))
  | giveUp at_ asks free =>
    cases hc with
    | submitted progress submits => exact .locked progress rfl rfl
    | locked progress idle holder => simp [free] at holder
    | cleared progress idle ended => exact .cleared progress rfl (ended.imp_left (hcancelled _))
  | arm at_ asks | armFetching at_ asks =>
    exact absurd (Handler.carries_inside at_ (by simp [asks, Request.isSubmit])) hother
  | disarm at_ asks =>
    obtain ⟨-, hidle⟩ := hfits.at_stage at_
    rw [if_neg (by simp [asks, Request.isSubmit])] at hidle
    exact .cleared rfl hidle (.inl (List.mem_append_left _ (List.mem_singleton_self _)))
  | takeBack at_ => exact absurd (Handler.carries_aborting at_) hother
  | @read w H result of free =>
    -- The sheet has been chosen long ago.
    rcases H.session.chooseSheet_cases w.sheet with hsame | ⟨hearly, -⟩ | ⟨hearly, -⟩
    · exact hc.same rfl hsame rfl rfl rfl hcancelled
    · simp [hearly] at late
    · simp [hearly] at late
  | advance of | abandon of | record of => exact absurd (congrArg some of) hother
  | release at_ => exact absurd (Handler.carries_inside at_ (kept _ rfl at_ rfl)) hother
  | look | queue | order | unlist | refuse | fetched | fetchFailed | launch | worked | present
  | remove =>
    exact hc.same rfl rfl rfl rfl rfl hcancelled

/-! ## What the batch does to its counter -/

/-- Polling collects results and drops none. -/
theorem length_results_poll {run : Batch.Run Payload} {p : Batch.Policy} {backend : Batch.Backend}
    {now : Nat} {w : Batch.World} (polled : run = (b.run.poll p backend now w).1) :
    b.run.results.length ≤ run.results.length := by
  have honward := Batch.poll_onward p backend now b.run w
  subst polled
  exact honward.results.length_le

/-- A task that has become a batch has been one before. -/
theorem Acts.batch_before (acts : Acts env s t h l y H e) (hb : e.task = .submission b) :
    ∃ b₀, y = .submission b₀ := by
  cases acts with
  | advance | abandon | record => exact ⟨_, rfl⟩
  | _ => cases hb

/-- A batch counts the results that it collects, unless it has been cancelled. -/
theorem Acts.counts_self (acts : Acts env s t h l (.submission b) H e)
    (hfits : (Task.submission b).Fits t H) (hc : b.Counts s H) {b' : Submission}
    (hb' : e.task = .submission b') : b'.Counts (s.apply t h e) e.handle := by
  have hcancelled : ∀ token ∈ s.cancelled, token ∈ (s.apply t h e).cancelled :=
    fun _ htoken => List.mem_append_right _ htoken
  cases acts with
  | @advance b H run of unfinished running polled =>
    obtain rfl := Task.submission.inj hb'
    have hle := length_results_poll polled
    have hsum : b.run.results.length + (run.results.length - b.run.results.length) =
        run.results.length := by omega
    cases hc with
    | submitted progress submits => exact .submitted (by rw [progress, hsum]) submits
    | locked progress idle holder => exact .locked (by rw [progress, hsum]) idle holder
    | cleared progress idle ended =>
      have htoken : H.token ∈ s.cancelled := ended.resolve_right fun hended => hended running
      obtain ⟨hresults, -⟩ := advance_of_cancelled running (hfits.1 ▸ htoken) polled
      exact .cleared (by simp [progress, hresults]) idle (.inl (hcancelled _ htoken))
  | abandon of =>
    obtain rfl := Task.submission.inj hb'
    exact hc.same rfl rfl rfl rfl rfl hcancelled
  | @record b H summary of unfinished ended free =>
    obtain rfl := Task.submission.inj hb'
    rcases H.session.complete_cases summary with ⟨d, hd, hdone⟩ | ⟨-, hsame⟩
    · -- The session is completed, and everything that has been counted stays counted.
      cases hc with
      | submitted progress submits =>
        exact .submitted (d := d) progress (.inr ⟨summary, by rw [hdone]⟩)
      | locked progress idle holder => simp [free] at holder
      | cleared progress idle ended => simp [idle] at hd
    · exact hc.same rfl hsame rfl rfl rfl hcancelled

/-! ## Every step keeps the counters in order -/

/-- Without a batch the counter stays at zero. -/
theorem Acts.uncounted (acts : Acts env s t h l y H e) (hbatch : ∀ b, y ≠ .submission b)
    (zero : H.progress = 0) : e.handle.progress = 0 := by
  cases acts with
  | advance | abandon | record => exact absurd rfl (hbatch _)
  | restart | enter | disarm => rfl
  | look | queue | order | unlist | refuse | edit | giveUp | arm | armFetching | fetched
  | fetchFailed | takeBack | launch | worked | present | remove | read | release =>
    exact zero

theorem Counted.unsubmitted_move (hc : Counted s) (m : Move env s l s') {k : Nat} {K : Handle}
    (hk : s'.handles[k]? = some K)
    (hnone : ∀ (u : Nat) (b : Submission), s'.tasks[u]? = some (.submission b) → b.handle ≠ k) :
    K.progress = 0 := by
  have hbefore : ∀ (u : Nat) (b : Submission), s.tasks[u]? = some (.submission b) →
      b.handle ≠ k := by
    intro u b hb
    obtain ⟨b', hb', hhandle, -⟩ := m.batch_kept hb
    exact hhandle ▸ hnone u b' hb'
  cases m with
  | stay | arrive | decline | leave | pass => exact hc.unsubmitted hk hbefore
  | create =>
    rcases getElem?_concat_cases hk with hold | ⟨-, rfl⟩
    · exact hc.unsubmitted hold hbefore
    · rfl
  | @act l t h y H e task handle acts =>
    rcases handle_apply_cases hk handle with ⟨rfl, rfl⟩ | ⟨-, hold⟩
    · refine acts.uncounted (fun b hy => ?_) (hc.unsubmitted handle hbefore)
      -- A batch acts on its own session only.
      subst hy
      exact hbefore t b task (acts.at_place rfl)
    · exact hc.unsubmitted hold hbefore
  | sweep maxIdle =>
    obtain ⟨L, hL, rfl⟩ := handle_sweep hk
    exact hc.unsubmitted (H := L) hL hbefore

/-- The batch of a completed session has ended with the summary of the session. -/
theorem Concluded.verdict (hcon : Concluded s) (hs : Sound s)
    (hb : s.tasks[t]? = some (.submission b)) (hh : s.handles[b.handle]? = some H) {d : Draft}
    {m : Summary} (completed : H.session.stage = .completed d m) :
    b.run.verdict = some (.ok m) := by
  obtain ⟨u, b', hb', hhandle, hended⟩ := hcon _ H d m hh completed
  -- A session has one batch only.
  obtain rfl := hs.alone hb hb' rfl (congrArg some hhandle)
  obtain rfl : b = b' := by simpa [hb] using hb'
  exact hended

theorem Counted.counts_act (hs : Sound s) (hcon : Concluded s) (hc : Counted s)
    (task : s.tasks[t]? = some y) (handle : s.handles[h]? = some H)
    (acts : Acts env s t h l y H e)
    (kept : ∀ x, y = .handler x → x.stage = .inside h → l = .drop t → x.request.isSubmit = true)
    {u : Nat} {K : Handle} (hb : (s.apply t h e).tasks[u]? = some (.submission b))
    (hk : (s.apply t h e).handles[b.handle]? = some K) : b.Counts (s.apply t h e) K := by
  have hfits := hs.found task handle acts
  rcases task_apply_cases e hb with ⟨rfl, hself⟩ | ⟨hne, hold⟩ | ⟨-, hspawned⟩
  · -- The batch itself has acted.
    obtain ⟨hplace, -⟩ := (acts.fits hfits).1 b.handle (hself ▸ rfl)
    rw [hplace, handle_apply_self e handle] at hk
    obtain rfl := Option.some.inj hk
    obtain ⟨b₀, rfl⟩ := acts.batch_before hself.symm
    have hof : b₀.handle = h := acts.at_place rfl
    exact acts.counts_self hfits (hc.counts task (hof ▸ handle)) hself.symm
  · rcases handle_apply_cases hk handle with ⟨rfl, rfl⟩ | ⟨-, hkold⟩
    · refine acts.counts_other hfits (hc.counts hold handle) (hs.fits hold rfl handle).2 ?_
        (fun d m hd => ?_) kept
      · exact fun hcy => hne (hs.alone hold task rfl hcy)
      · simp [hcon.verdict hs hold handle hd]
    · exact (hc.counts hold hkold).same rfl rfl rfl rfl rfl
        fun _ htoken => List.mem_append_right _ htoken
  · cases acts with
    | launch at_ asks free submitted =>
      obtain rfl := Task.submission.inj (List.mem_singleton.1 (List.mem_of_getElem? hspawned))
      rw [handle_apply_self _ handle] at hk
      obtain rfl := Option.some.inj hk
      -- The handler has carried the submission up to now, so there has been no batch.
      have hzero : H.progress = 0 := by
        refine hc.unsubmitted handle fun v b' hb' hbh => ?_
        obtain rfl := hs.alone hb' task (congrArg some hbh) (Handler.carries_building at_)
        simp [task] at hb'
      exact .submitted hzero (.inl submitted)
    | order => simpa using List.mem_of_getElem? hspawned
    | _ => simp at hspawned

theorem Counted.counts_move (hs : Sound s) (hcon : Concluded s) (hc : Counted s)
    (m : Move env s l s')
    (kept : ∀ t x h, l = .drop t → s.tasks[t]? = some (.handler x) → x.stage = .inside h →
      x.request.isSubmit = true)
    {u : Nat} {K : Handle} (hb : s'.tasks[u]? = some (.submission b))
    (hk : s'.handles[b.handle]? = some K) : b.Counts s' K := by
  have hsame : ∀ {L : Handle}, b.Counts s L → s'.cancelled = s.cancelled →
      K.session = L.session → K.progress = L.progress → K.holder = L.holder → K.token = L.token →
      b.Counts s' K := fun hcounts hcancelled hsession hprogress hholder htoken =>
    hcounts.same rfl hsession hprogress hholder htoken (by simp [hcancelled])
  cases m with
  | stay => exact hc.counts hb hk
  | pass => exact hsame (hc.counts hb hk) rfl rfl rfl rfl rfl
  | arrive request =>
    rcases getElem?_concat_cases hb with hold | ⟨-, hnew⟩
    · exact hsame (hc.counts hold hk) rfl rfl rfl rfl rfl
    · cases hnew
  | decline task | leave task =>
    exact hsame (hc.counts ((batches_setTask task u b).1 hb) hk) rfl rfl rfl rfl rfl
  | create task =>
    have hold := (batches_setTask task u b).1 hb
    rcases getElem?_concat_cases hk with hkold | ⟨hnew, -⟩
    · exact hsame (hc.counts hold hkold) rfl rfl rfl rfl rfl
    · -- A batch is never busy with a session that has not been there yet.
      obtain ⟨L, hl⟩ := hs.inRange u _ b.handle hold rfl
      obtain ⟨hlt, -⟩ := List.getElem?_eq_some_iff.1 hl
      omega
  | @act l t h y H e task handle acts =>
    refine hc.counts_act hs hcon task handle acts (fun x hx at_ hl => ?_) hb hk
    subst hx
    exact kept t x h hl task at_
  | sweep maxIdle =>
    obtain ⟨L, hL, rfl⟩ := handle_sweep hk
    exact hsame (hc.counts hb hL) rfl rfl rfl rfl rfl

/-! ## Runs -/

theorem Interrupted.append {firstId wall : Nat} {labels : List Label} (more : List Label)
    (hi : Interrupted env firstId wall labels) : Interrupted env firstId wall (labels ++ more) := by
  obtain ⟨before, t, later, x, h, rfl, hx, hstage, hrequest⟩ := hi
  exact ⟨before, t, later ++ more, x, h, by simp, hx, hstage, hrequest⟩

/-- All counters are in order, unless a handler that has given a session up is dropped before it
has set the counter back. -/
theorem counted_of_not_interrupted {firstId wall : Nat} (labels : List Label)
    (hnot : ¬ Interrupted env firstId wall labels) :
    Counted ((State.start firstId wall).after env labels) := by
  induction labels using List.reverseRecOn with
  | nil => exact counted_start firstId wall
  | append_singleton labels l ih =>
    have hr : Reachable env ((State.start firstId wall).after env labels) :=
      ⟨firstId, wall, labels, rfl⟩
    have hc := ih fun hi => hnot (hi.append [l])
    rw [after_concat]
    have m := move_step env hr.sound.inRange l
    refine ⟨hc.unsubmitted_move m, hc.counts_move hr.sound hr.concluded m ?_⟩
    intro t x h hl hx hstage
    subst hl
    by_contra hrequest
    exact hnot ⟨labels, t, [], x, h, rfl, hx, hstage, by simpa using hrequest⟩

/-- Every row of the draft is in the queue of the batch, under way or among the results. -/
theorem length_of_submits {firstId wall : Nat} (labels : List Label) {d : Draft}
    (hb : ((State.start firstId wall).after env labels).tasks[t]? = some (.submission b))
    (hh : ((State.start firstId wall).after env labels).handles[b.handle]? = some H)
    (hd : H.session.Submits d) :
    b.run.started + b.run.queue.length = d.table.rows.length := by
  have hr : Reachable env ((State.start firstId wall).after env labels) :=
    ⟨firstId, wall, labels, rfl⟩
  obtain ⟨given, table, -, -, hpayloads⟩ :=
    (History.of_labels env firstId wall labels).batches hb hh hd
  have hcalled := congrArg List.length (hr.ledger.booked hb).rows
  have hlength := congrArg List.length hpayloads
  simp only [Submission.payloads, Payload.ofRows, List.length_append, List.length_map,
    List.length_range] at hcalled hlength
  omega

end

end SheetIntake.Service
