import SheetIntake.Proofs.Service.Cancellation

/-! # Who attends to a session that is submitting

    A session that is submitting waits for a task to take the submission back or to
    complete it.  `Tended` says that there is such a task.

    A handler can be given up between the step that sets the session to submitting and
    the one that starts the batch.  Then nobody is left who could end the submission, and
    nobody comes after: the session is `Deserted`.  This is the only way to get there
    (`tended_iff_not_forsaken`). -/

namespace SheetIntake.Service

/-- A task carries the submission of the session. -/
def Carried (s : State) (h : Nat) : Prop :=
  ∃ (t : Nat) (y : Task), s.tasks[t]? = some y ∧ y.carries = some h

/-- Somebody works on the submission of the session: a handler that has begun it, or a batch that
still runs and has not been cancelled. -/
def Tended (s : State) (h : Nat) : Prop :=
  (∃ (t : Nat) (x : Handler), s.tasks[t]? = some (.handler x) ∧ x.carries = some h) ∨
    ∃ (t : Nat) (b : Submission), s.tasks[t]? = some (.submission b) ∧ b.handle = h ∧
      b.finished = false ∧ b.token ∉ s.cancelled

/-- The review of the session is over, and nobody carries its submission. -/
def Deserted (s : State) (h : Nat) : Prop :=
  (∃ H, s.handles[h]? = some H ∧ H.session.isLate = true) ∧ ¬ Carried s h

/-- In the course of the labels a handler has been given up that carried the submission of the
session. -/
def Forsaken (env : Surroundings) (firstId wall : Nat) (labels : List Label) (h : Nat) : Prop :=
  ∃ (before : List Label) (t : Nat) (later : List Label) (x : Handler),
    labels = before ++ .drop t :: later ∧
    ((State.start firstId wall).after env before).tasks[t]? = some (.handler x) ∧
    x.carries = some h

section
variable {env : Surroundings} {s s' : State} {l : Label} {t h k : Nat} {y : Task} {H : Handle}
  {e : Effect}

/-! ## Deserted sessions stay deserted -/

/-- Only the handler that carries the submission can open the review again, and not when it is
given up. -/
theorem Move.late_kept (hs : Sound s) (m : Move env s l s') {K K' : Handle}
    (hk : s.handles[k]? = some K) (hk' : s'.handles[k]? = some K')
    (late : K.session.isLate = true) :
    K'.session.isLate = true ∨ (Carried s k ∧ ∃ t, l = .run t) := by
  rcases m.same_or_acted hk hk' with ⟨-, hsame⟩ | ⟨t, y, e, ht, acts, -, rfl⟩
  · rw [hsame]
    exact .inl late
  · rcases (acts.frame (hs.found ht hk acts)).late late with hlate | hc
    · exact .inl hlate
    · cases acts with
      | release => exact .inl late
      | _ => exact .inr ⟨⟨t, _, ht, hc⟩, t, rfl⟩

theorem Deserted.move (hs : Sound s) (hd : Deserted s k) (m : Move env s l s') :
    Deserted s' k := by
  obtain ⟨⟨K, hk, late⟩, hnone⟩ := hd
  refine ⟨?late, ?none⟩
  case late =>
    obtain ⟨K', hk', -⟩ := m.id_kept hk
    rcases m.late_kept hs hk hk' late with hlate | ⟨hcarried, -⟩
    · exact ⟨K', hk', hlate⟩
    · exact absurd hcarried hnone
  case none =>
    -- A carrier takes over from another, or begins in a review; there is neither.
    rintro ⟨u, z, hz, hc⟩
    rcases m.carrier hz hc with hold | ⟨t, y, H, e, ht, hh, acts, -, hnew⟩
    · exact hnone ⟨u, z, hold, hc⟩
    · obtain ⟨-, hcy | hearly⟩ := acts.carries (hnew.imp_left And.right) hc
      · exact hnone ⟨t, y, ht, hcy⟩
      · obtain rfl : K = H := Option.some.inj (hk.symm.trans hh)
        simp [late] at hearly

/-- Giving up the handler that carries the submission deserts the session. -/
theorem deserted_drop (env : Surroundings) (hs : Sound s) {x : Handler}
    (ht : s.tasks[t]? = some (.handler x)) (hc : x.carries = some h) :
    Deserted (step env s (.drop t)) h := by
  have hplace := place_of_carries (y := .handler x) hc
  obtain ⟨H, hh⟩ := hs.inRange t _ h ht hplace
  have late : H.session.isLate = true := (hs.fits ht hplace hh).late hc
  have hdrop : (step env s (.drop t)).tasks = s.tasks.set t (x.to .dropped) := by
    simp only [step, ht, Turn.drop]
    cases hx : x.stage with
    | answered r => simp [Handler.carries, hx] at hc
    | dropped => simp [Handler.carries, hx] at hc
    | _ => rfl
  refine ⟨?late, ?none⟩
  case late =>
    have m := move_step env hs.inRange (.drop t)
    obtain ⟨K, hk, -⟩ := m.id_kept hh
    rcases m.late_kept hs hh hk late with hlate | ⟨-, u, hrun⟩
    · exact ⟨K, hk, hlate⟩
    · cases hrun
  case none =>
    rintro ⟨u, z, hz, hcz⟩
    rw [hdrop] at hz
    rcases task_setTask_cases (s := s) hz with ⟨-, rfl⟩ | ⟨hne, hold⟩
    · cases hcz
    · exact hne (hs.alone hold ht hcz hc)

/-! ## Submissions that go on are carried on -/

/-- The task that carries a submission goes on carrying it, hands it on to the batch, or ends it;
unless it is given up. -/
theorem Acts.carries_on (acts : Acts env s t h l y H e) (hc : y.carries = some h)
    (kept : l ≠ .drop t) {d : Draft} (hd : e.handle.session.stage = .submitting d) :
    ∃ z, (z = e.task ∨ z ∈ e.spawned) ∧ z.carries = some h := by
  cases acts with
  | arm | armFetching | fetched | fetchFailed => exact ⟨_, .inl rfl, rfl⟩
  | launch => exact ⟨_, .inr (List.mem_singleton_self _), rfl⟩
  | advance of | abandon of | record of => exact ⟨_, .inl rfl, congrArg some of⟩
  | takeBack at_ free =>
    rcases H.session.abort_cases with ⟨d', -, hopen⟩ | ⟨hnot, hsame⟩
    · simp [hopen] at hd
    · exact absurd (hsame ▸ hd) (hnot d)
  | refuse at_ =>
    rcases at_ with at_ | ⟨w, at_⟩ | ⟨token, table, -, hnot⟩
    · simp [Task.carries, Handler.carries, at_] at hc
    · simp [Task.carries, Handler.carries, at_] at hc
    · exact absurd hd (hnot d)
  | disarm at_ asks => simp [Task.carries, Handler.carries, at_, asks, Request.isSubmit] at hc
  | release => exact absurd rfl kept
  | look at_ | queue at_ | order at_ | unlist at_ | edit at_ | restart at_ | enter at_ | giveUp at_
  | worked at_ | present at_ | remove at_ =>
    simp [Task.carries, Handler.carries, at_] at hc
  | read => cases hc

/-- A task stays as it was unless it is the one that is set. -/
theorem tasks_set_kept {u : Nat} {z : Task} (hy : s.tasks[t]? = some y)
    (hz : s.tasks[u]? = some z) :
    (u = t ∧ y = z) ∨ ∀ w, (s.tasks.set u w)[t]? = some y := by
  by_cases hut : u = t
  · subst hut
    exact .inl ⟨rfl, Option.some.inj (hy.symm.trans hz)⟩
  · exact .inr fun w => (List.getElem?_set_ne hut).trans hy

/-- While a session is submitting, it goes on being carried in every move, unless the handler that
carries it is given up. -/
theorem Carried.move (m : Move env s l s') (hy : s.tasks[t]? = some y) (hc : y.carries = some h)
    (kept : ∀ x, y = .handler x → l ≠ .drop t) {K : Handle} (hk : s'.handles[h]? = some K)
    {d : Draft} (hd : K.session.stage = .submitting d) : Carried s' h := by
  have hstays : s'.tasks[t]? = some y → Carried s' h := fun hy' => ⟨t, y, hy', hc⟩
  cases m with
  | stay | pass | sweep => exact hstays hy
  | arrive request =>
    obtain ⟨hlt, -⟩ := List.getElem?_eq_some_iff.1 hy
    exact hstays ((List.getElem?_append_left hlt).trans hy)
  | decline task at_ | create task at_ =>
    -- A handler that has just arrived carries nothing.
    rcases tasks_set_kept hy task with ⟨rfl, rfl⟩ | hstay
    · simp [Task.carries, Handler.carries, at_] at hc
    · exact hstays (hstay _)
  | leave task outside =>
    rcases tasks_set_kept hy task with ⟨rfl, rfl⟩ | hstay
    · exact absurd rfl (kept _ rfl)
    · exact hstays (hstay _)
  | @act l u k z H e task handle acts =>
    by_cases hut : u = t
    · subst hut
      obtain rfl := Option.some.inj (hy.symm.trans task)
      obtain rfl := acts.at_place (place_of_carries hc)
      rw [handle_apply_self e handle] at hk
      obtain rfl := Option.some.inj hk
      have hl : l ≠ .drop u := by
        intro hl
        cases acts with
        | release => exact kept _ rfl hl
        | _ => cases hl
      obtain ⟨z, rfl | hz, hcz⟩ := acts.carries_on hc hl hd
      · exact ⟨u, e.task, task_apply_self e task, hcz⟩
      · obtain ⟨i, hi, rfl⟩ := List.getElem_of_mem hz
        exact ⟨s.tasks.length + i, e.spawned[i], by simp [State.apply, hi], hcz⟩
    · exact hstays (task_apply_ne e (Ne.symm hut) hy)

/-! ## Runs -/

theorem Forsaken.concat {firstId wall : Nat} {labels : List Label} (l : Label)
    (hf : Forsaken env firstId wall labels h) : Forsaken env firstId wall (labels ++ [l]) h := by
  obtain ⟨before, t, later, x, rfl, hx, hc⟩ := hf
  exact ⟨before, t, later ++ [l], x, by simp, hx, hc⟩

/-- A session that is submitting is carried, unless the handler that carried it has been given
up. -/
theorem carried_of_not_forsaken {firstId wall : Nat} (labels : List Label)
    (hnot : ¬ Forsaken env firstId wall labels h)
    (hh : ((State.start firstId wall).after env labels).handles[h]? = some H) {d : Draft}
    (hd : H.session.stage = .submitting d) :
    Carried ((State.start firstId wall).after env labels) h := by
  induction labels using List.reverseRecOn generalizing H d with
  | nil => simp [State.start] at hh
  | append_singleton labels l ih =>
    have hr : Reachable env ((State.start firstId wall).after env labels) :=
      ⟨firstId, wall, labels, rfl⟩
    have hs := hr.sound
    rw [after_concat] at hh ⊢
    have m := move_step env hs.inRange l
    -- Whoever carried it before is not given up in this step.
    have hcarried : Carried ((State.start firstId wall).after env labels) h →
        Carried (step env ((State.start firstId wall).after env labels) l) h := by
      rintro ⟨t, y, hy, hc⟩
      refine Carried.move m hy hc (fun x hx hl => hnot ?_) hh hd
      subst hx hl
      exact ⟨labels, t, [], x, rfl, hy, hc⟩
    have hbefore : ∀ {K : Handle} {d' : Draft},
        ((State.start firstId wall).after env labels).handles[h]? = some K →
        K.session.stage = .submitting d' →
        Carried (step env ((State.start firstId wall).after env labels) l) h := fun hk hd' =>
      hcarried (ih (fun hf => hnot (hf.concat l)) hk hd')
    rcases m.origin hh with ⟨K, hk, -, hsame⟩ | ⟨-, hearly⟩ | ⟨t, y, K, e, ht, hk, acts, heq, rfl⟩
    · rw [hsame] at hd
      exact hbefore hk hd
    · rw [Session.isLate_of_submitting hd] at hearly
      cases hearly
    · rcases acts.submitting_back hd with hd' | ⟨x, id, _, _, _, -, -, asks, -, -, htask⟩
      · exact hbefore hk hd'
      · rw [heq]
        refine ⟨t, e.task, task_apply_self e ht, ?_⟩
        simp [htask, Task.carries, Handler.carries, Handler.to, asks, Request.isSubmit]

/-- A session whose submission has been carried by a handler that was given up, is deserted ever
after. -/
theorem deserted_of_forsaken {firstId wall : Nat} {labels : List Label}
    (hforsaken : Forsaken env firstId wall labels h) :
    Deserted ((State.start firstId wall).after env labels) h := by
  obtain ⟨before, t, later, x, rfl, hx, hc⟩ := hforsaken
  have hr : Reachable env ((State.start firstId wall).after env before) :=
    ⟨firstId, wall, before, rfl⟩
  have hs := hr.sound
  have hdeserted := deserted_drop env hs hx hc
  have hsound := hs.move (move_step env hs.inRange (.drop t))
  have hafter := (hsound.keeps (I := fun s => Deserted s h) env hdeserted
    (fun hs hd m => hd.move hs m) later).2
  simpa [after_append, State.after] using hafter

/-! ## Tokens and batches -/

/-- What the tokens say about the sessions and the batches. -/
structure Diligent (s : State) : Prop where
  /-- A session in the store whose token is cancelled has been given up. -/
  cancelled : ∀ {h : Nat} {H : Handle}, s.handles[h]? = some H → H.listed = true →
    H.token ∈ s.cancelled → H.session.stage = .idle
  /-- A batch that ends badly has been cancelled. -/
  ended : ∀ {t : Nat} {b : Submission} {e : ImportError}, s.tasks[t]? = some (.submission b) →
    b.run.verdict = some (.error e) → b.token ∈ s.cancelled
  /-- A batch that has nothing left to do has been cancelled, or has had its summary recorded. -/
  finished : ∀ {t : Nat} {b : Submission} {H : Handle}, s.tasks[t]? = some (.submission b) →
    b.finished = true → s.handles[b.handle]? = some H →
    b.token ∈ s.cancelled ∨ ∀ d, H.session.stage ≠ .submitting d

theorem diligent_start (firstId wall : Nat) : Diligent (State.start firstId wall) := by
  constructor <;> simp [State.start]

/-- A token is cancelled only when the session has been given up or taken out of the store. -/
theorem Acts.cancels (acts : Acts env s t h l y H e) (hfits : y.Fits t H) {token : Nat}
    (htoken : token ∈ e.cancelled) :
    e.handle.session.stage = .idle ∨ e.handle.listed = false := by
  cases acts with
  | disarm at_ asks =>
    obtain ⟨-, hidle⟩ := hfits.at_stage at_
    rw [if_neg (by simp [asks, Request.isSubmit])] at hidle
    exact .inl hidle
  | remove at_ => exact .inr (hfits.at_stage at_)
  | _ => cases htoken

theorem Diligent.cancelled_apply (hs : Sound s) (hn : Numbered s) (hd : Diligent s)
    (ht : s.tasks[t]? = some y) (hh : s.handles[h]? = some H) (acts : Acts env s t h l y H e)
    {K : Handle} (hk : (s.apply t h e).handles[k]? = some K) (listed : K.listed = true)
    (htoken : K.token ∈ (s.apply t h e).cancelled) : K.session.stage = .idle := by
  obtain ⟨-, hown, harmed⟩ := acts.numbers
  have hfits := hs.found ht hh acts
  rcases handle_apply_cases hk hh with ⟨rfl, rfl⟩ | ⟨hkh, hkold⟩
  · -- The token has been cancelled in this step, or is an old one, or a fresh one.
    rcases List.mem_append.1 htoken with hnew | hold
    · rcases acts.cancels hfits hnew with hidle | hgone
      · exact hidle
      · simp [hgone] at listed
    · rcases harmed with ⟨hsame, -⟩ | ⟨hfresh, -⟩
      · have hlisted : H.listed = true := by
          by_contra hgone
          have := (acts.frame hfits).unlisted (by simpa using hgone)
          simp [this] at listed
        exact (acts.idle hfits (hd.cancelled hh hlisted (hsame ▸ hold))).1
      · have := hn.spent _ hold
        omega
  · rcases List.mem_append.1 htoken with hnew | hold
    · exact absurd (hn.apart hkold hh (hown _ hnew)) hkh
    · exact hd.cancelled hkold listed hold

theorem Diligent.cancelled_move (hs : Sound s) (hn : Numbered s) (hd : Diligent s)
    (m : Move env s l s') {K : Handle} (hk : s'.handles[k]? = some K) (listed : K.listed = true)
    (htoken : K.token ∈ s'.cancelled) : K.session.stage = .idle := by
  cases m with
  | stay | arrive | decline | leave | pass => exact hd.cancelled hk listed htoken
  | create =>
    rcases getElem?_concat_cases hk with hold | ⟨-, rfl⟩
    · exact hd.cancelled hold listed htoken
    · -- Its token is new, so it is not cancelled.
      exact absurd (hn.spent _ htoken) (Nat.lt_irrefl _)
  | act task handle acts => exact hd.cancelled_apply hs hn task handle acts hk listed htoken
  | sweep maxIdle =>
    obtain ⟨L, hL, rfl⟩ := handle_sweep hk
    simp only [Bool.and_eq_true] at listed
    exact hd.cancelled (H := L) hL listed.1 htoken

/-- A batch after a step has just been started, or goes on, or has nothing left to do. -/
theorem Acts.submission (acts : Acts env s t h l y H e) {b : Submission}
    (hb : .submission b = e.task ∨ .submission b ∈ e.spawned) :
    (b.run.verdict = none ∧ b.finished = false) ∨
      ∃ b₀, y = .submission b₀ ∧ b.token = b₀.token ∧ b₀.finished = false ∧
        ((b₀.run.verdict = none ∧ b.finished = false ∧
            b.run = (b₀.run.poll env.policy env.backend.quiet s.clock
              { cancelled := s.isCancelled b₀.token, calls := s.calls.length, events := [] }).1) ∨
          (b.run = b₀.run ∧ ∃ x, b₀.run.verdict = some (.error x)) ∨
          (b.run = b₀.run ∧ ∃ m, b₀.run.verdict = some (.ok m) ∧
            e.handle.session = (H.session.complete m).1)) := by
  cases acts with
  | @advance b₀ H run of unfinished running polled =>
    obtain rfl : b = { b₀ with run } := by simpa using hb
    exact .inr ⟨b₀, rfl, rfl, unfinished, .inl ⟨running, unfinished, polled⟩⟩
  | @abandon b₀ H x of unfinished ended =>
    obtain rfl : b = { b₀ with finished := true } := by simpa using hb
    exact .inr ⟨b₀, rfl, rfl, unfinished, .inr (.inl ⟨rfl, x, ended⟩)⟩
  | @record b₀ H m of unfinished ended free =>
    obtain rfl : b = { b₀ with finished := true } := by simpa using hb
    exact .inr ⟨b₀, rfl, rfl, unfinished, .inr (.inr ⟨rfl, m, ended, rfl⟩)⟩
  | launch =>
    obtain rfl : b = _ := by simpa [Handler.to] using hb
    exact .inl ⟨rfl, rfl⟩
  | _ => simp [Handler.to] at hb

theorem Diligent.ended_move (hd : Diligent s) (m : Move env s l s') {b : Submission}
    {x : ImportError} (hb : s'.tasks[t]? = some (.submission b))
    (herror : b.run.verdict = some (.error x)) : b.token ∈ s'.cancelled := by
  rcases m.carrier hb rfl with hold | ⟨u, y, H, e, hu, -, acts, -, hnew⟩
  · exact m.cancelled_kept (hd.ended hold herror)
  · refine m.cancelled_kept ?_
    rcases acts.submission (hnew.imp_left And.right) with
      ⟨hnone, -⟩ | ⟨b₀, rfl, htoken, -, ⟨running, -, hrun⟩ | ⟨hrun, -⟩ | ⟨hrun, -⟩⟩
    · simp [hnone] at herror
    · rw [hrun] at herror
      rw [htoken]
      exact List.contains_iff_mem.1 (Batch.cancelled_of_error running herror)
    · exact htoken ▸ hd.ended hu (hrun ▸ herror)
    · exact htoken ▸ hd.ended hu (hrun ▸ herror)

theorem Diligent.finished_move (hs : Sound s) (hd : Diligent s) (m : Move env s l s')
    {b : Submission} {K : Handle} (hb : s'.tasks[t]? = some (.submission b))
    (hfinished : b.finished = true) (hk : s'.handles[b.handle]? = some K) :
    b.token ∈ s'.cancelled ∨ ∀ d, K.session.stage ≠ .submitting d := by
  rcases m.carrier hb rfl with hold | ⟨u, y, H, e, hu, hh, acts, rfl, hnew⟩
  · obtain ⟨L, hl⟩ := hs.inRange t _ _ hold rfl
    rcases hd.finished hold hfinished hl with htoken | hnot
    · exact .inl (m.cancelled_kept htoken)
    · -- Nobody can begin to submit a session whose submission is carried.
      refine .inr fun d hd' => ?_
      rcases m.same_or_acted hl hk with ⟨-, hsame⟩ | ⟨u, y, e, -, acts, -, rfl⟩
      · rw [hsame] at hd'
        exact hnot d hd'
      · have hlate := (hs.fits hold rfl hl).late rfl
        rcases acts.submitting_back hd' with hd' | ⟨x, _, _, _, _, -, -, -, reviewed, -⟩
        · exact hnot d hd'
        · simp [Session.isLate, reviewed] at hlate
  · rw [handle_apply_self e hh] at hk
    obtain rfl := Option.some.inj hk
    rcases acts.submission (hnew.imp_left And.right) with
      ⟨-, hrunning⟩ | ⟨b₀, rfl, htoken, -, ⟨-, hrunning, -⟩ | ⟨-, x, herror⟩ | ⟨-, n, -, hcomplete⟩⟩
    · simp [hrunning] at hfinished
    · simp [hrunning] at hfinished
    · exact .inl (htoken ▸ m.cancelled_kept (hd.ended hu herror))
    · refine .inr fun d hd' => ?_
      rw [hcomplete] at hd'
      rcases H.session.complete_cases n with ⟨d', -, hdone⟩ | ⟨hnot, hsame⟩
      · simp [hdone] at hd'
      · exact hnot d (hsame ▸ hd')

theorem Diligent.move (hs : Sound s) (hn : Numbered s) (hd : Diligent s) (m : Move env s l s') :
    Diligent s' :=
  ⟨hd.cancelled_move hs hn m, hd.ended_move m, hd.finished_move hs m⟩

/-- In every state that is reached, a batch goes on unless it has been cancelled. -/
theorem Reachable.diligent (hr : Reachable env s) : Diligent s := by
  have hboth := hr.keeps (I := fun s => Numbered s ∧ Diligent s)
    (fun firstId wall => ⟨numbered_start firstId wall, diligent_start firstId wall⟩)
    fun hs h m => ⟨h.1.move m, h.2.move hs h.1 m⟩
  exact hboth.2

/-! ## Who attends -/

theorem Tended.carried (ht : Tended s h) : Carried s h := by
  rcases ht with ⟨t, x, hx, hc⟩ | ⟨t, b, hb, hbh, -, -⟩
  · exact ⟨t, _, hx, hc⟩
  · exact ⟨t, _, hb, congrArg some hbh⟩

/-- In the store, whoever carries the submission of a session that is submitting works on it. -/
theorem tended_iff_carried (hr : Reachable env s) (hh : s.handles[h]? = some H)
    (listed : H.listed = true) {d : Draft} (hd : H.session.stage = .submitting d) :
    Tended s h ↔ Carried s h := by
  constructor
  · exact Tended.carried
  · rintro ⟨t, y, hy, hc⟩
    cases y with
    | handler x => exact .inl ⟨t, x, hy, hc⟩
    | worker w => cases hc
    | submission b =>
      obtain rfl : b.handle = h := Option.some.inj hc
      have hfits : H.token = b.token := (hr.sound.fits hy rfl hh).1
      -- The session would be idle if its token were cancelled.
      have hlive : b.token ∉ s.cancelled := by
        intro htoken
        have hidle := hr.diligent.cancelled hh listed (hfits ▸ htoken)
        simp [hidle] at hd
      refine .inr ⟨t, b, hy, rfl, ?_, hlive⟩
      by_contra hfinished
      rcases hr.diligent.finished hy (by simpa using hfinished) hh with htoken | hnot
      · exact hlive htoken
      · exact hnot d hd

/-- In every run, somebody works on a session that is submitting, unless a handler that carried its
submission has been given up; and then nobody does. -/
theorem tended_iff_not_forsaken (env : Surroundings) (firstId wall : Nat) (labels : List Label)
    {h : Nat} {H : Handle}
    (session : ((State.start firstId wall).after env labels).handles[h]? = some H)
    (listed : H.listed = true) (submitting : H.session.status = .submitting) :
    Tended ((State.start firstId wall).after env labels) h ↔
      ¬ Forsaken env firstId wall labels h := by
  obtain ⟨d, hd⟩ := Session.status_eq_submitting.1 submitting
  rw [tended_iff_carried ⟨firstId, wall, labels, rfl⟩ session listed hd]
  constructor
  · exact fun hcarried hforsaken => (deserted_of_forsaken hforsaken).2 hcarried
  · exact fun hnot => carried_of_not_forsaken labels hnot session hd

/-- The handler that fetches the lookup table works on the session. -/
theorem tended_while_fetching : Tended (Sample.after (some 50) (Sample.submit none)) 0 := by
  have hsession : (Sample.after (some 50) (Sample.submit none)).handles[0]?.any
      (fun H => H.listed && H.session.status == .submitting) = true := by
    decide +kernel
  obtain ⟨H, hh, hH⟩ := (Option.any_eq_true _ _).1 hsession
  simp only [Bool.and_eq_true, beq_iff_eq] at hH
  refine (tended_iff_not_forsaken _ 0 0 _ hh hH.1 hH.2).2 ?_
  -- No handler is given up.
  rintro ⟨before, t, later, x, hlabels, -, -⟩
  have hmem : Label.drop t ∈ Sample.submit none := by rw [hlabels]; simp
  simp [Sample.submit, Sample.upload] at hmem

/-- The lookup table takes longer than the request may, so its handler is given up.  The session is
submitting ever after, and nobody works on it. -/
theorem not_tended_after_timeout :
    let labels : List Label := Sample.submit none ++ [.pass 10 10, .drop 1, .pass 40 40, .run 1]
    (Sample.after (some 50) labels).handles.map (fun H => (H.listed, H.session.status)) =
        [(true, .submitting)] ∧
      ¬ Tended (Sample.after (some 50) labels) 0 := by
  refine ⟨by decide +kernel, fun ht => ?_⟩
  obtain ⟨x, hx, hcarries⟩ := handler_of_any
    (s := Sample.after (some 50) (Sample.submit none ++ [.pass 10 10])) (t := 1)
    (p := fun x => x.carries == some 0) (by decide +kernel)
  exact (deserted_of_forsaken ⟨_, 1, _, x, by simp; rfl, hx, eq_of_beq hcarries⟩).2 ht.carried

end

end SheetIntake.Service
