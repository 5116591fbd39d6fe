import SheetIntake.Proofs.Service.ExactlyOnce
import SheetIntake.Proofs.Session.Failure

/-! # Submissions that are taken back

    A submit fetches the lookup table after it has begun the submission, and without the lock.
    If the fetch fails, it takes the submission back.  Whatever has happened in the meantime,
    the session is then the very one that was validated when the submission began, unless it
    has been given up (`gives_back`).

    Together with what is known of single sessions, this says that nothing that fails leaves a
    change half made (`failures_leave_no_trace`). -/

namespace SheetIntake.Service

variable {env : Surroundings} {s₀ : State} {labels : List Label} {t h : Nat}

/-! ## What a submission has found -/

/-- While a draft is submitted, the mode of its session stays. -/
theorem mode_since {later : List Label} {s : State} {K : Handle}
    (since : ∀ mid, mid <+: later → ∃ L, (s.after env mid).handles[h]? = some L)
    (inRange : ∀ mid, (s.after env mid).InRange) (hk : s.handles[h]? = some K) {L : Handle}
    (hl : (s.after env later).handles[h]? = some L) : L.session.mode = K.session.mode := by
  induction later using List.reverseRecOn generalizing L with
  | nil =>
    obtain rfl := Option.some.inj (hk.symm.trans hl)
    rfl
  | append_singleton later l ih =>
    obtain ⟨M, hm⟩ := since later (List.prefix_append ..)
    have hmove := move_step env (inRange later) l
    rw [← after_concat] at hmove
    rw [hmove.mode_kept hm hl]
    exact ih (fun mid hmid => since mid (hmid.trans (List.prefix_append ..))) hm

/-- A submission has begun in a session that was validated, and whose draft it has kept. -/
theorem Begun.found {firstId wall : Nat} {scope : Backend.Scope}
    {given : Option (List LookupEntry)} {d : Draft}
    (hb : Begun env (State.start firstId wall) labels h scope given d) {H : Handle}
    (hh : ((State.start firstId wall).after env labels).handles[h]? = some H) :
    ∃ (before : List Label) (u : Nat) (later : List Label) (y : Handler) (K : Handle),
      labels = before ++ .run u :: later ∧
      ((State.start firstId wall).after env before).tasks[u]? = some (.handler y) ∧
      y.stage = .atLock h ∧ y.request.isSubmit = true ∧
      ((State.start firstId wall).after env before).handles[h]? = some K ∧
      K.session.status = .validated ∧ K.session = ⟨H.session.mode, .review d⟩ := by
  obtain ⟨before, u, later, y, id, organization, caller, K, rfl, hy, hstage, asks, -, hk, hreview,
    hsince⟩ := hb
  have hrange : ∀ mid, (((State.start firstId wall).after env before).after env mid).InRange :=
    fun mid => (Reachable.sound ⟨firstId, wall, before ++ mid, (after_append ..).symm⟩).inRange
  -- The first step after the review has begun the submission, so nothing was missing.
  have hcomplete : d.problems = [] := by
    obtain ⟨L, hl, hd⟩ := hsince [] (List.nil_prefix ..)
    have hmove := move_step env (hrange []) (.run u)
    rw [after_concat] at hl
    rcases hmove.same_or_acted hk hl with ⟨-, hsame⟩ | ⟨_, _, e, -, acts, -, rfl⟩
    · rw [hsame] at hd
      simp [Session.Submits, hreview] at hd
    · rcases acts.submits_back hd with hd' | ⟨_, _, _, _, _, -, -, -, -, -, -, hcomplete⟩
      · simp [Session.Submits, hreview] at hd'
      · exact hcomplete
  have hmode : H.session.mode = K.session.mode := by
    rw [after_append] at hh
    refine mode_since (fun mid hmid => ?_) hrange hk hh
    rcases List.prefix_cons_iff.1 hmid with rfl | ⟨mid', rfl, hmid'⟩
    · exact ⟨K, hk⟩
    · obtain ⟨L, hl, -⟩ := hsince mid' hmid'
      exact ⟨L, by rwa [after_append] at hl⟩
  refine ⟨before, u, later, y, K, rfl, hy, hstage, by rw [asks]; rfl, hk, ?_, ?_⟩
  · simp [Session.status, hreview, hcomplete]
  · rw [hmode, ← hreview]

/-! ## Giving back -/

/-- Whether a handler is about to take a submission back. -/
def Stage.takesBack (h : Nat) : Stage → Bool
  | .aborting h' _ => h' == h
  | _ => false

theorem Stage.takesBack_iff {h : Nat} {stage : Stage} :
    stage.takesBack h = true ↔ ∃ e, stage = .aborting h e := by
  constructor
  · intro htakes
    cases stage with
    | aborting h' e => exact ⟨e, congrArg (Stage.aborting · e) (eq_of_beq htakes)⟩
    | _ => cases htakes
  · rintro ⟨e, rfl⟩
    exact beq_self_eq_true h

/-- Taking a submission back is one step of its handler. -/
theorem step_aborting {s : State} {x : Handler} {H : Handle} {e : RecordError}
    (hx : s.tasks[t]? = some (.handler x)) (at_ : x.stage = .aborting h e)
    (hh : s.handles[h]? = some H) (free : H.holder = none) :
    step env s (.run t) = s.apply t h
      { task := x.to (.answered (.refused (.backend e)))
        handle := { H with session := H.session.abort.1 } } := by
  have hfree : s.isFree h = true := by simp [State.isFree, hh, free]
  simp only [step, hx, Turn.step, at_, hfree, if_true, Turn.abort, hh, Turn.refuse, Turn.answer]
  exact goTo_onHandle hh _ _

/-- A submit whose fetch has failed with `e` gives the session back as it has been validated when
the submission began, if it is submitting still, and reports the error.  A session that has been
given up in the meantime stays as it is. -/
def GivesBack (env : Surroundings) (s₀ : State) (labels : List Label) : Prop :=
  ∀ (t h : Nat) (x : Handler) (H : Handle) (e : RecordError),
    (s₀.after env labels).tasks[t]? = some (.handler x) → x.stage = .aborting h e →
    (s₀.after env labels).handles[h]? = some H → H.holder = none →
    ∃ L, (s₀.after env (labels ++ [.run t])).handles[h]? = some L ∧
      (s₀.after env (labels ++ [.run t])).tasks[t]? =
        some (x.to (.answered (.refused (.backend e)))) ∧
      (H.session.status ≠ .submitting → L.session = H.session) ∧
      (H.session.status = .submitting →
        ∃ (before : List Label) (u : Nat) (later : List Label) (y : Handler) (K : Handle),
          labels = before ++ .run u :: later ∧
          (s₀.after env before).tasks[u]? = some (.handler y) ∧
          y.stage = .atLock h ∧ y.request.isSubmit = true ∧
          (s₀.after env before).handles[h]? = some K ∧ K.session.status = .validated ∧
          L.session = K.session)

theorem gives_back (env : Surroundings) (firstId wall : Nat) (labels : List Label) :
    GivesBack env (State.start firstId wall) labels := by
  intro t h x H e hx hstage hh hfree
  refine ⟨{ H with session := H.session.abort.1 }, ?_, ?_, fun hleft => ?_, fun hkept => ?_⟩
  · rw [after_concat, step_aborting hx hstage hh hfree]
    exact handle_apply_self _ hh
  · rw [after_concat, step_aborting hx hstage hh hfree]
    exact task_apply_self _ hx
  · rcases H.session.abort_cases with ⟨d, hd, -⟩ | ⟨-, hsame⟩
    · exact absurd (Session.status_eq_submitting.2 ⟨d, hd⟩) hleft
    · exact hsame
  · obtain ⟨d, hd⟩ := Session.status_eq_submitting.1 hkept
    obtain ⟨_, _, _, _, -, hbegun⟩ := (History.of_labels env firstId wall labels).handlers hx
      (Handler.carries_aborting hstage) hh hd
    obtain ⟨before, u, later, y, K, hlabels, hy, hat, hasks, hk, hvalidated, hsession⟩ :=
      hbegun.found hh
    refine ⟨before, u, later, y, K, hlabels, hy, hat, hasks, hk, hvalidated, ?_⟩
    show H.session.abort.1 = K.session
    rw [hsession]
    simp [Session.abort, hd]

/-! ## Nothing half made -/

/-- Whatever has been done to a session: an action that fails changes nothing, or it leaves a new
session if it could not read the file.  And in every run of the service, a submit whose fetch of
the lookup table fails leaves the session as it was. -/
theorem failures_leave_no_trace :
    (∀ (mode : Mode) (actions : List Session.Action),
        ((Session.new mode).after actions).Unharmed mode) ∧
      ∀ (env : Surroundings) (firstId wall : Nat) (labels : List Label),
        GivesBack env (State.start firstId wall) labels := by
  refine ⟨fun mode actions => ?_, gives_back⟩
  have hunharmed := ((Session.valid_new mode).after actions).unharmed
  rwa [Session.mode_after] at hunharmed

/-- Surroundings in which the lookup tables cannot be had. -/
def Sample.outage : Surroundings :=
  { Sample.surroundings (some 5) with
    tables := fun _ => { delay := some 5, answer := .error .timeout } }

/-- A list whose last entry names a field again is refused, a file without rows makes the import
start over, and an import whose lookup table cannot be fetched is validated as before. -/
theorem failures_of_a_sample :
    (let s := (Session.new .properties).after (Session.Sample.actions.take 4)
     s.status = .validated ∧
       ∃ e, s.replaceMapping [⟨"Title", some "name"⟩, ⟨"City", some " name"⟩] = (s, .error e)) ∧
      (let s := (Session.new .units).after [.selectFile "empty.csv" (.bytes [])]
       s.status = .fileSelected ∧ (s.perform .decode).1 = Session.new .units) ∧
      ∃ L : Handle, ((State.start 0 0).after Sample.outage
          (Sample.submit none ++ [.pass 5 5, .run 1] ++ [.run 1])).handles[0]? = some L ∧
        L.session.status = .validated := by
  refine ⟨⟨by decide +kernel, ?_⟩, ⟨by decide +kernel, ?_⟩, ?_⟩
  · refine (failures_leave_no_trace.1 .properties _).misplaced [⟨"Title", some "name"⟩] _
      (.inr ⟨"name", by decide +kernel, .inr ⟨_, List.mem_singleton_self _, by decide +kernel⟩⟩)
  · have hnoRows : ((Session.new .units).after
        [.selectFile "empty.csv" (.bytes [])]).decode.2 = .error .noRows := by
      decide +kernel
    exact (failures_leave_no_trace.1 .units _).failed .decode .noRows
      (congrArg (Except.map Session.Answer.status) hnoRows)
  · obtain ⟨x, hx, haborting⟩ := handler_of_any
      (s := (State.start 0 0).after Sample.outage (Sample.submit none ++ [.pass 5 5, .run 1]))
      (t := 1) (p := fun x => x.stage.takesBack 0) (by decide +kernel)
    have hsession : ((State.start 0 0).after Sample.outage
        (Sample.submit none ++ [.pass 5 5, .run 1])).handles[0]?.any
        (fun H => H.holder.isNone && H.session.status == .submitting) = true := by
      decide +kernel
    obtain ⟨e, hstage⟩ := Stage.takesBack_iff.1 haborting
    obtain ⟨H, hh, hH⟩ := (Option.any_eq_true _ _).1 hsession
    simp only [Bool.and_eq_true, Option.isNone_iff_eq_none, beq_iff_eq] at hH
    obtain ⟨L, hl, -, -, hback⟩ :=
      failures_leave_no_trace.2 Sample.outage 0 0 _ 1 0 x H e hx hstage hh hH.1
    obtain ⟨_, _, _, _, K, -, -, -, -, -, hvalidated, hsame⟩ := hback hH.2
    exact ⟨L, hl, hsame ▸ hvalidated⟩

end SheetIntake.Service
