import SheetIntake.Proofs.Service.Cancellation

/-! # What deleting stops

    A session that is deleted goes out of the store, and then its token is cancelled.
    From there on no request finds it, and a batch of it makes no more calls.

    But requests that have found it before still wait for its lock.  A submission among
    them arms a token of its own when its turn comes, which nobody has cancelled.  So
    deleting a session stops it for good exactly as far as no submission stands in the
    way: `delete_is_final` says that this is the only exception, and
    `submitted_after_delete` that it is one. -/

namespace SheetIntake.Service

/-- A submission that is asked for waits for the lock of the session, or has yet to arm its
token. -/
def Handler.isUnarmed (h : Nat) (x : Handler) : Prop :=
  x.request.isSubmit = true ∧ (x.stage = .atLock h ∨ x.stage = .inside h)

/-- The session is out of the store, its token is cancelled, and nobody is going to arm another. -/
structure Shut (h : Nat) (s : State) : Prop where
  closed : ∃ H, s.handles[h]? = some H ∧ H.listed = false ∧ H.token ∈ s.cancelled
  unsought : ∀ (u : Nat) (z : Handler), s.tasks[u]? = some (.handler z) → ¬ z.isUnarmed h

section
variable {env : Surroundings} {s s' : State} {l : Label} {t h : Nat} {y : Task} {H : Handle}
  {e : Effect}

/-- Only a session in the store comes to be sought, and nobody comes behind its lock but from before
it. -/
theorem Acts.unarmed (acts : Acts env s t h l y H e) {z : Handler} (hz : e.task = .handler z)
    {k : Nat} (hk : z.isUnarmed k) :
    k = h ∧ (H.listed = true ∨ ∃ x, y = .handler x ∧ x.isUnarmed h) := by
  obtain ⟨hsubmit, hstage⟩ := hk
  cases acts with
  | queue at_ asks listed =>
    obtain rfl := Task.handler.inj hz
    exact ⟨by simpa [eq_comm] using hstage, .inl listed⟩
  | @enter x H d id organization caller given at_ asks free reviewed =>
    obtain rfl := Task.handler.inj hz
    exact ⟨by simpa [eq_comm] using hstage, .inr ⟨x, rfl, hsubmit, .inl at_⟩⟩
  | giveUp at_ asks =>
    obtain rfl := Task.handler.inj hz
    simp [asks, Request.isSubmit] at hsubmit
  | read | advance | abandon | record => cases hz
  | look | order | unlist | refuse | edit | restart | arm | armFetching | disarm | fetched
  | fetchFailed | takeBack | launch | worked | present | remove | release =>
    obtain rfl := Task.handler.inj hz
    simp at hstage

/-- A token is armed only by a handler that has been waiting to do so. -/
theorem Acts.token_kept (acts : Acts env s t h l y H e)
    (hy : ∀ x, y = .handler x → ¬ x.isUnarmed h) : e.handle.token = H.token := by
  cases acts with
  | @arm x H id organization caller table at_ asks =>
    exact absurd ⟨by simp [asks, Request.isSubmit], .inr at_⟩ (hy x rfl)
  | @armFetching x H id organization caller at_ asks =>
    exact absurd ⟨by simp [asks, Request.isSubmit], .inr at_⟩ (hy x rfl)
  | _ => rfl

/-- A session that is shut stays so, and no call is made for it. -/
theorem Shut.move {k : Nat} (hs : Sound s) (hshut : Shut k s) (m : Move env s l s') :
    Shut k s' ∧ s'.callsOf k = s.callsOf k := by
  obtain ⟨⟨K, hk, unlisted, hcancelled⟩, hunsought⟩ := hshut
  refine ⟨⟨?closed, ?unsought⟩, m.quiet hs hk hcancelled⟩
  case closed =>
    obtain ⟨K', hk', -⟩ := m.id_kept hk
    refine ⟨K', hk', ?_⟩
    rcases m.same_or_acted hk hk' with ⟨hlisted, hsame⟩ | ⟨t, y, e, ht, acts, -, rfl⟩
    · have htoken : K'.token = K.token := by rw [hsame]
      refine ⟨?_, htoken ▸ m.cancelled_kept hcancelled⟩
      by_contra hback
      simp [hlisted (by simpa using hback)] at unlisted
    · refine ⟨(acts.frame (hs.found ht hk acts)).unlisted unlisted, ?_⟩
      rw [acts.token_kept fun x hx => hunsought t x (hx ▸ ht)]
      exact m.cancelled_kept hcancelled
  case unsought =>
    intro u z hz hunarmed
    rcases m.handler_origin hz with hold | hapart | ⟨y, h, H, e, hu, hh, acts, -, hnew⟩
    · exact hunsought u z hold hunarmed
    · obtain ⟨-, hstage⟩ := hunarmed
      rcases hapart with at_ | at_ | ⟨r, at_, -⟩ | ⟨at_, -⟩ <;> simp [at_] at hstage
    · obtain ⟨rfl, hlisted | ⟨x, rfl, hx⟩⟩ := acts.unarmed hnew hunarmed
      · obtain rfl : K = H := Option.some.inj (hk.symm.trans hh)
        simp [unlisted] at hlisted
      · exact hunsought u x hu hx

/-! ## Deleting -/

/-- The step with which a deletion is answered shuts the session, unless a submission waits to arm a
token. -/
theorem shut_remove (env : Surroundings) (hs : Sound s) {x : Handler}
    (ht : s.tasks[t]? = some (.handler x)) (at_ : x.stage = .unlisted h)
    (hunsought : ∀ (u : Nat) (z : Handler), s.tasks[u]? = some (.handler z) → ¬ z.isUnarmed h) :
    Shut h (step env s (.run t)) := by
  have hplace : Task.place (.handler x) = some h := by simp [Task.place, Stage.place, at_]
  obtain ⟨H, hh⟩ := hs.inRange t _ h ht hplace
  have hunlisted : H.listed = false := (hs.fits ht hplace hh).at_stage at_
  have hstep : step env s (.run t) =
      (s.cancelToken H.token).setTask t (x.to (.answered .removed)) := by
    simp only [step, ht, Turn.step, at_, hh]
    rfl
  rw [hstep]
  refine ⟨⟨H, hh, hunlisted, List.mem_cons_self⟩, fun u z hz hunarmed => ?_⟩
  rcases task_setTask_cases hz with ⟨-, hnew⟩ | ⟨-, hold⟩
  · obtain rfl := Task.handler.inj hnew
    simp [Handler.isUnarmed] at hunarmed
  · exact hunsought u z hold hunarmed

/-- Whether the removal of the session has been reported. -/
def Stage.isRemoved : Stage → Bool
  | .answered .removed => true
  | _ => false

theorem Stage.isRemoved_iff {stage : Stage} :
    stage.isRemoved = true ↔ stage = .answered .removed := by
  constructor
  · intro hremoved
    unfold Stage.isRemoved at hremoved
    split at hremoved
    · rfl
    · cases hremoved
  · rintro rfl
    rfl

/-- Once a deletion has been answered, no call is made for the session any more, whatever happens;
unless a submission was waiting for its lock, or had yet to arm its token. -/
theorem delete_is_final (hr : Reachable env s) {x : Handler}
    (task : s.tasks[t]? = some (.handler x)) (at_ : x.stage = .unlisted h)
    (unsought : ∀ (u : Nat) (z : Handler), s.tasks[u]? = some (.handler z) → ¬ z.isUnarmed h)
    (labels : List Label) :
    ((step env s (.run t)).after env labels).callsOf h = (step env s (.run t)).callsOf h := by
  have hsound := hr.sound.move (move_step env hr.sound.inRange (.run t))
  have hshut := shut_remove env hr.sound task at_ unsought
  have hkept := hsound.keeps
    (I := fun s' => Shut h s' ∧ s'.callsOf h = (step env s (.run t)).callsOf h) env ⟨hshut, rfl⟩
    (fun hs ⟨hd, hcalls⟩ m => ⟨(hd.move hs m).1, (hd.move hs m).2.trans hcalls⟩) labels
  exact hkept.2.2

/-- A submission that waits for the lock while the session is deleted, makes its calls all the
same. -/
theorem submitted_after_delete :
    let deleted : List Label := Sample.upload ++
      [.arrive (.submit ⟨0⟩ "acme" none (some [])), .run 1, .arrive (.delete ⟨0⟩), .run 2, .run 2]
    let later : List Label := [.run 1, .run 1, .run 1, .run 3]
    (∃ x : Handler, (Sample.after none deleted).tasks[2]? = some (.handler x) ∧
        x.stage = .answered .removed) ∧
      ((Sample.after none deleted).callsOf 0).length = 0 ∧
      ((Sample.after none (deleted ++ later)).callsOf 0).length = 1 := by
  intro deleted later
  obtain ⟨x, htask, hx⟩ := handler_of_any (s := Sample.after none deleted) (t := 2)
    (p := fun x => x.stage.isRemoved) (by decide +kernel)
  exact ⟨⟨x, htask, Stage.isRemoved_iff.1 hx⟩, by decide +kernel, by decide +kernel⟩

end

end SheetIntake.Service
