import Mathlib.Data.List.Infix
import SheetIntake.Proofs.Service.Counting

/-! # What clients see

    A view is built while nobody holds the lock of the session, so it shows no session in the
    middle of a change.  What it shows is read off the counters (`Counted`): a summary is there if
    and only if the session is completed, and then all rows are counted; while the session is
    submitting some of them are, and otherwise none.

    From one view to the next the counter only grows, as long as no submission, cancelling or
    reset is carried out in between: nothing else takes the lock for longer than one step or sets
    the counter back (`step_grows`). -/

namespace SheetIntake.Service

/-! ## Consistent views -/

/-- What a view says of the rows agrees with what it says of the status and the summary. -/
structure View.Consistent (v : View) : Prop where
  /-- There is a summary exactly when the session is completed. -/
  completed_iff : v.session.status = .completed ↔ v.session.summary?.isSome = true
  /-- A summary accounts for all rows, and all of them are counted. -/
  summary : ∀ m, v.session.summary? = some m →
    v.processed = v.session.table.rows.length ∧ m.total = v.session.table.rows.length ∧
      m.succeeded + m.failed.length = m.total
  submitting : v.session.status = .submitting → v.processed ≤ v.session.table.rows.length
  otherwise : v.session.status ≠ .completed → v.session.status ≠ .submitting → v.processed = 0

/-- In the step with the label a handler answers with a view that it has built. -/
def Builds (env : Surroundings) (s : State) (l : Label) (v : View) : Prop :=
  ∃ (t : Nat) (x : Handler) (o : Occasion), s.tasks[t]? ≠ some (.handler x) ∧
    (step env s l).tasks[t]? = some (.handler x) ∧ x.stage = .answered (.view o v)

/-- Whether the request begins a submission, gives it up or starts over. -/
def Request.overturns (id : Uuid) : Request → Bool
  | .submit id' .. | .cancel id' | .reset id' => id' == id
  | _ => false

/-- In the step with the label a submission, cancelling or reset of the session is carried out. -/
def Overturns (env : Surroundings) (s : State) (l : Label) (id : Uuid) : Prop :=
  ∃ (t : Nat) (x x' : Handler) (h : Nat), l = .run t ∧ s.tasks[t]? = some (.handler x) ∧
    x.stage = .atLock h ∧ x.request.overturns id = true ∧
    (step env s l).tasks[t]? = some (.handler x') ∧
    (x'.stage = .inside h ∨ ∃ o, x'.stage = .viewing h o)

section
variable {env : Surroundings} {s : State} {l : Label} {t h : Nat} {y : Task} {H : Handle}
  {e : Effect}

/-! ## Sessions whose lock is free -/

/-- What a session says of its rows, stage by stage. -/
theorem consistent_of_stages
    (submitting : ∀ d, H.session.stage = .submitting d → H.progress ≤ d.table.rows.length)
    (completed : ∀ d m, H.session.stage = .completed d m →
      H.progress = d.table.rows.length ∧ m.total = d.table.rows.length ∧
        m.succeeded + m.failed.length = m.total)
    (otherwise : (∀ d, ¬ H.session.Submits d) → H.progress = 0) : H.view.Consistent where
  completed_iff := by
    show H.session.status = .completed ↔ H.session.summary?.isSome = true
    unfold Session.status Session.summary?
    cases H.session.stage with
    | review d => by_cases hp : d.problems = [] <;> simp [hp]
    | _ => simp
  summary m hm := by
    cases hstage : H.session.stage with
    | completed d m' =>
      obtain rfl : m' = m := by simpa [Handle.view, Session.summary?, hstage] using hm
      simpa [Handle.view, Session.table, Session.draft?, hstage] using completed d m' hstage
    | _ => simp [Handle.view, Session.summary?, hstage] at hm
  submitting hstatus := by
    obtain ⟨d, hd⟩ := Session.status_eq_submitting.1 hstatus
    have hd : H.session.stage = .submitting d := hd
    simpa [Handle.view, Session.table, Session.draft?, hd] using submitting d hd
  otherwise hcompleted hsubmitting := by
    refine otherwise fun d hd => ?_
    rcases hd with hd | ⟨m, hd⟩
    · exact hsubmitting (by simp [Handle.view, Session.status, hd])
    · exact hcompleted (by simp [Handle.view, Session.status, hd])

/-- A session whose lock is free is shown consistently. -/
theorem consistent_view {firstId wall : Nat} (labels : List Label)
    (hnot : ¬ Interrupted env firstId wall labels)
    (hh : ((State.start firstId wall).after env labels).handles[h]? = some H)
    (free : H.holder = none) : H.view.Consistent := by
  have hr : Reachable env ((State.start firstId wall).after env labels) :=
    ⟨firstId, wall, labels, rfl⟩
  have hcounted := counted_of_not_interrupted labels hnot
  by_cases hbatch : ∃ (t : Nat) (b : Submission),
      ((State.start firstId wall).after env labels).tasks[t]? = some (.submission b) ∧ b.handle = h
  · obtain ⟨t, b, hb, rfl⟩ := hbatch
    have hlength : ∀ d, H.session.Submits d →
        b.run.started + b.run.queue.length = d.table.rows.length := fun d hd =>
      length_of_submits labels hb hh hd
    have horderly := (hr.ledger.booked hb).orderly
    cases hcounted.counts hb hh with
    | @submitted d progress submits =>
      refine consistent_of_stages ?_ ?_ fun hnone => absurd submits (hnone d)
      · intro d' hd'
        have hrows := hlength d' (.inl hd')
        rw [Batch.Run.started] at hrows
        omega
      · intro d' m hd'
        have hrows := hlength d' (.inr ⟨m, hd'⟩)
        have hended := hr.concluded.verdict hr.sound hb hh hd'
        -- Nothing is left in the queue or under way, so the results are all rows.
        obtain ⟨hqueue, hflight, -⟩ := horderly.ended m hended
        obtain ⟨htotal, hsum, -⟩ := horderly.accounts hended
        simp only [Batch.Run.started, hqueue, hflight, List.length_nil] at hrows
        exact ⟨by omega, by omega, hsum⟩
    | locked progress idle holder => simp [free] at holder
    | cleared progress idle ended =>
      exact consistent_of_stages (by simp [idle]) (by simp [idle]) fun _ => progress
  · -- Without a batch nothing has been counted, and the session cannot be completed.
    have hzero : H.progress = 0 :=
      hcounted.unsubmitted hh fun t b hb hbh => hbatch ⟨t, b, hb, hbh⟩
    refine consistent_of_stages (fun d _ => by omega) (fun d m hd => ?_) fun _ => hzero
    obtain ⟨t, b, hb, hbh, -⟩ := hr.concluded h H d m hh hd
    exact absurd ⟨t, b, hb, hbh⟩ hbatch

/-! ## What the counter does while the lock is free -/

/-- A task that finds the lock free leaves it free and does not set the counter back, unless its
request overturns what the session has come to. -/
theorem Acts.grows (acts : Acts env s t h l y H e) (hfits : y.Fits t H) (free : H.holder = none) :
    (e.handle.holder = none ∧ H.progress ≤ e.handle.progress) ∨
      ∃ x x', y = .handler x ∧ l = .run t ∧ x.stage = .atLock h ∧
        x.request.overturns H.id = true ∧ e.task = .handler x' ∧
        (x'.stage = .inside h ∨ ∃ o, x'.stage = .viewing h o) := by
  cases acts with
  | @restart x H id at_ asks =>
    have hid : H.id = id := hfits.1 id (by simp [asks, Request.id?])
    exact .inr ⟨x, _, rfl, rfl, at_, by simp [asks, Request.overturns, hid], rfl, .inr ⟨_, rfl⟩⟩
  | @enter x H d id organization caller given at_ asks =>
    have hid : H.id = id := hfits.1 id (by simp [asks, Request.id?])
    exact .inr ⟨x, _, rfl, rfl, at_, by simp [asks, Request.overturns, hid], rfl, .inl rfl⟩
  | @giveUp x H id at_ asks =>
    have hid : H.id = id := hfits.1 id (by simp [asks, Request.id?])
    exact .inr ⟨x, _, rfl, rfl, at_, by simp [asks, Request.overturns, hid], rfl, .inl rfl⟩
  | arm at_ | armFetching at_ | disarm at_ | release at_ =>
    -- A handler behind the lock would hold it.
    obtain ⟨hholder, -⟩ := hfits.at_stage at_
    simp [free] at hholder
  | advance => exact .inl ⟨free, Nat.le_add_right _ _⟩
  | look | queue | order | unlist | refuse | edit | fetched | fetchFailed | takeBack | launch
  | worked | present | remove | read | abandon | record =>
    exact .inl ⟨free, Nat.le_refl _⟩

/-- While a lock is free, every step leaves it free and does not set the counter back, unless it
overturns what the session has come to. -/
theorem step_grows (hs : Sound s) (l : Label) (hh : s.handles[h]? = some H)
    (free : H.holder = none) (hnot : ¬ Overturns env s l H.id) :
    ∃ K, (step env s l).handles[h]? = some K ∧ K.id = H.id ∧ K.holder = none ∧
      H.progress ≤ K.progress := by
  have m := move_step env hs.inRange l
  obtain ⟨K, hk, hid⟩ := m.id_kept hh
  refine ⟨K, hk, hid, ?_⟩
  rcases m.same_or_acted hh hk with ⟨-, hsame⟩ | ⟨t, y, e, ht, acts, heq, rfl⟩
  · rw [hsame]
    exact ⟨free, Nat.le_refl _⟩
  · rcases acts.grows (hs.found ht hh acts) free with hgrows | ⟨x, x', rfl, rfl, at_, hrequest, hx', hgone⟩
    · exact hgrows
    · refine absurd ⟨t, x, x', h, rfl, ht, at_, hrequest, ?_, hgone⟩ hnot
      rw [heq, ← hx']
      exact task_apply_self e ht

/-- So does every run. -/
theorem after_grows (hs : Sound s) (hh : s.handles[h]? = some H) (free : H.holder = none)
    (labels : List Label)
    (hnot : ∀ before l later, labels = before ++ l :: later →
      ¬ Overturns env (s.after env before) l H.id) :
    ∃ K, (s.after env labels).handles[h]? = some K ∧ K.id = H.id ∧ K.holder = none ∧
      H.progress ≤ K.progress := by
  induction labels using List.reverseRecOn with
  | nil => exact ⟨H, hh, rfl, free, Nat.le_refl _⟩
  | append_singleton labels l ih =>
    obtain ⟨K, hk, hid, hfree, hle⟩ := ih fun before l' later hsplit =>
      hnot before l' (later ++ [l]) (by simp [hsplit])
    have hsound : Sound (s.after env labels) :=
      (hs.keeps env hs (fun hs _ m => hs.move m) labels).1
    have hlast : ¬ Overturns env (s.after env labels) l K.id := hid ▸ hnot labels l [] rfl
    obtain ⟨L, hl, hid', hfree', hle'⟩ := step_grows hsound l hk hfree hlast
    rw [after_concat]
    exact ⟨L, hl, hid'.trans hid, hfree', Nat.le_trans hle hle'⟩

/-! ## Views -/

/-- A view shows a session whose lock is free, and a step that builds one overturns nothing. -/
theorem Builds.found (hs : Sound s) {v : View} (hv : Builds env s l v) :
    ∃ (h : Nat) (H : Handle), s.handles[h]? = some H ∧ H.holder = none ∧ v = H.view ∧
      ∀ id, ¬ Overturns env s l id := by
  obtain ⟨t, x, o, hnew, hx, hstage⟩ := hv
  have m := move_step env hs.inRange l
  rcases m.built hx hstage with hold | ⟨z, h, H, rfl, hz, at_, -, hh, free, hv⟩
  · exact absurd hold hnew
  · refine ⟨h, H, hh, free, hv, ?_⟩
    -- The handler has been about to show the session, and not before its lock.
    rintro id ⟨u, w, w', k, hu, hw, hwstage, -⟩
    obtain rfl := Label.run.inj hu
    obtain rfl : z = w := by simpa [hz] using hw
    simp [at_] at hwstage

/-- Handlers may be dropped wherever they wait for a session or for the backend, but not between
giving a session up and setting its counter back.  In every such run every view is consistent, and
of two views of one session the later one does not show fewer rows, unless a submission, cancelling
or reset of the session is carried out in between. -/
theorem views_agree (env : Surroundings) (firstId wall : Nat) (labels : List Label)
    (uninterrupted : ¬ Interrupted env firstId wall labels) :
    let at_ (before : List Label) := (State.start firstId wall).after env before
    (∀ before l later v, labels = before ++ l :: later → Builds env (at_ before) l v →
      v.Consistent) ∧
    ∀ before l between l' later v v', labels = before ++ l :: (between ++ l' :: later) →
      Builds env (at_ before) l v → Builds env (at_ (before ++ l :: between)) l' v' →
      v'.id = v.id →
      (∀ first m last, between = first ++ m :: last →
        ¬ Overturns env (at_ (before ++ l :: first)) m v.id) →
      v.processed ≤ v'.processed := by
  intro at_
  have hreachable : ∀ before, Reachable env (at_ before) := fun before =>
    ⟨firstId, wall, before, rfl⟩
  constructor
  · intro before l later v hsplit hv
    obtain ⟨h, H, hh, free, rfl, -⟩ := hv.found (hreachable before).sound
    exact consistent_view before (fun hi => uninterrupted (hsplit ▸ hi.append (l :: later))) hh free
  · intro before l between l' later v v' hsplit hv hv' hid hnot
    obtain ⟨h, H, hh, free, rfl, hquiet⟩ := hv.found (hreachable before).sound
    obtain ⟨h', H', hh', -, rfl, -⟩ := hv'.found (hreachable (before ++ l :: between)).sound
    have hafter : ∀ first, at_ (before ++ l :: first) = (at_ before).after env (l :: first) :=
      fun first => after_append before (l :: first)
    have hsteps : ∀ first m last, l :: between = first ++ m :: last →
        ¬ Overturns env ((at_ before).after env first) m H.id := by
      intro first m last hfirst
      cases first with
      | nil =>
        obtain ⟨rfl, -⟩ := List.cons.inj hfirst
        exact hquiet _
      | cons m' first =>
        obtain ⟨rfl, hrest⟩ := List.cons.inj hfirst
        rw [← hafter]
        exact hnot first m last hrest
    obtain ⟨K, hk, hkid, -, hle⟩ :=
      after_grows (hreachable before).sound hh free (l :: between) hsteps
    rw [← hafter] at hk
    -- The later view shows the same session.
    obtain rfl : h' = h :=
      (hreachable (before ++ l :: between)).numbered.eq_of_id hh' hk (hid.trans hkid.symm)
    obtain rfl : H' = K := by simpa [hh'] using hk
    exact hle

/-- The view that a handler has answered with. -/
def Handler.view? (x : Handler) : Option View :=
  match x.stage with
  | .answered (.view _ v) => some v
  | _ => none

/-- What a step has built is found by tests that can be evaluated. -/
theorem builds_of_any {u : Nat} {p : View → Bool}
    (open_ : (s.tasks[u]?.bind Task.handler?).any (fun x => x.view?.isNone) = true)
    (passes : ((step env s l).tasks[u]?.bind Task.handler?).any (fun x => x.view?.any p) = true) :
    ∃ v, Builds env s l v ∧ p v = true := by
  obtain ⟨x, hx, hnone⟩ := handler_of_any open_
  obtain ⟨x', hx', hany⟩ := handler_of_any passes
  obtain ⟨v, hview, hv⟩ := (Option.any_eq_true _ _).1 hany
  have hstage : ∃ o, x'.stage = .answered (.view o v) := by
    unfold Handler.view? at hview
    split at hview
    · rename_i o v' hstage
      exact ⟨o, by rw [hstage, Option.some.inj hview]⟩
    · cases hview
  obtain ⟨o, ho⟩ := hstage
  refine ⟨v, ⟨u, x', o, fun hold => ?_, hx', ho⟩, hv⟩
  -- Before the step the handler has not built anything.
  obtain rfl : x = x' := by simpa [hx] using hold
  simp [hview] at hnone

/-- The answer to a submission shows that no row has been dealt with; the next view shows one. -/
theorem view_after_first_row :
    let before : List Label := Sample.submit (some []) ++ [.arrive (.get ⟨0⟩), .run 2, .run 1]
    let between : List Label := [.run 3, .pass 5 5, .run 3]
    ∃ v v' : View, Builds (Sample.surroundings none) (Sample.after none before) (.run 1) v ∧
      Builds (Sample.surroundings none) (Sample.after none (before ++ .run 1 :: between)) (.run 2)
        v' ∧
      v'.processed = 1 ∧ v.Consistent ∧ v'.Consistent ∧ v.processed ≤ v'.processed := by
  intro before between
  have hfirst : ∃ v, Builds (Sample.surroundings none) (Sample.after none before) (.run 1) v ∧
      (v.id == ⟨0⟩) = true :=
    builds_of_any (u := 1) (by decide +kernel) (by decide +kernel)
  have hsecond : ∃ v, Builds (Sample.surroundings none)
      (Sample.after none (before ++ .run 1 :: between)) (.run 2) v ∧
      (v.id == ⟨0⟩ && v.processed == 1) = true :=
    builds_of_any (u := 2) (by decide +kernel) (by decide +kernel)
  obtain ⟨v, hv, hpv⟩ := hfirst
  obtain ⟨v', hv', hpv'⟩ := hsecond
  simp only [Bool.and_eq_true, beq_iff_eq] at hpv hpv'
  -- No handler is dropped.
  have hnot : ¬ Interrupted (Sample.surroundings none) 0 0
      (before ++ .run 1 :: (between ++ [.run 2])) := by
    rintro ⟨first, t, last, x, h, hlabels, -⟩
    have hmem : Label.drop t ∈ before ++ .run 1 :: (between ++ [.run 2]) := by rw [hlabels]; simp
    simp [before, between, Sample.submit, Sample.upload] at hmem
  -- In between only the batch goes on, and it is no handler.
  have hbatch : ∀ first ∈ between.inits,
      ((Sample.after none (before ++ .run 1 :: first)).tasks[3]?.bind Task.handler?).isNone = true :=
    by decide +kernel
  have hquiet : ∀ first m last, between = first ++ m :: last →
      ¬ Overturns (Sample.surroundings none) (Sample.after none (before ++ .run 1 :: first)) m
        v.id := by
    rintro first m last hsplit ⟨t, x, x', h, rfl, ht, -⟩
    have hmem : Label.run t ∈ between := by rw [hsplit]; simp
    obtain rfl : t = 3 := by simpa [between] using hmem
    have hnone := hbatch first ((List.mem_inits _ _).2 ⟨_, hsplit.symm⟩)
    simp [ht, Task.handler?] at hnone
  obtain ⟨hconsistent, hgrows⟩ := views_agree (Sample.surroundings none) 0 0 _ hnot
  exact ⟨v, v', hv, hv', hpv'.2, hconsistent before _ _ v rfl hv,
    hconsistent (before ++ .run 1 :: between) (.run 2) [] v' (by simp) hv',
    hgrows before _ between _ [] v v' rfl hv hv' (hpv'.1.trans hpv.symm) hquiet⟩

/-- Had the cancelling been dropped behind the lock, a session that is idle would show a row. -/
example :
    (Sample.after none (Sample.submit (some []) ++ [.run 1, .run 1, .run 2, .pass 5 5, .run 2,
      .arrive (.cancel ⟨0⟩), .run 3, .run 3, .drop 3])).handles.map
        (fun H => (H.view.session.status, H.view.processed)) = [(.idle, 1)] := by
  decide +kernel

end

end SheetIntake.Service
