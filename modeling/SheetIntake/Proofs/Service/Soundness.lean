import Mathlib.Data.List.Induction
import SheetIntake.Proofs.Service.Moves

/-! # Sound states

    Between two of its steps a task relies on things that other tasks could spoil: that the
    lock is still its own, that the token is still the one it has armed, that the session
    has not been reopened.  `Fits` says what a task relies on, and `Sound` that all tasks
    can.  Every state that is reached is sound (`Reachable.sound`).

    What makes it true is that at most one task *carries* the submission of a session: the
    handler that has begun it, and then the batch.  Only a carrier can arm a token or
    reopen a session, so it never finds its own work undone by another. -/

namespace SheetIntake.Service

/-! ## Carriers -/

/-- Whether a submission is asked for. -/
def Request.isSubmit : Request → Bool
  | .submit .. => true
  | _ => false

/-- The session whose submission the handler carries. -/
def Handler.carries (x : Handler) : Option Nat :=
  match x.stage with
  | .inside h => if x.request.isSubmit then some h else none
  | .fetching h .. | .aborting h _ | .building h .. => some h
  | _ => none

/-- The session whose submission the task carries. -/
def Task.carries : Task → Option Nat
  | .handler x => x.carries
  | .worker _ => none
  | .submission b => some b.handle

section carries
variable {x : Handler} {h token : Nat}

theorem Handler.carries_inside (at_ : x.stage = .inside h) (submits : x.request.isSubmit = true) :
    x.carries = some h := by
  simp [Handler.carries, at_, submits]

theorem Handler.carries_fetching {due : Option Nat} {answer : Except RecordError (List LookupEntry)}
    (at_ : x.stage = .fetching h token due answer) : x.carries = some h := by
  simp [Handler.carries, at_]

theorem Handler.carries_aborting {e : RecordError} (at_ : x.stage = .aborting h e) :
    x.carries = some h := by
  simp [Handler.carries, at_]

theorem Handler.carries_building {table : List LookupEntry}
    (at_ : x.stage = .building h token table) : x.carries = some h := by
  simp [Handler.carries, at_]

end carries

theorem place_of_carries {y : Task} {h : Nat} (hc : y.carries = some h) : y.place = some h := by
  cases y with
  | handler x =>
    simp only [Task.carries, Handler.carries] at hc
    split at hc
    · split at hc
      · simp_all [Task.place, Stage.place]
      · cases hc
    all_goals simp_all [Task.place, Stage.place]
  | worker w => cases hc
  | submission b => exact hc

/-! ## What tasks rely on -/

/-- What task `t`, a handler of a request, relies on at its stage, where `H` is its session. -/
def Stage.Fits (t : Nat) (request : Request) (H : Handle) : Stage → Prop
  | .inside _ =>
    H.holder = some t ∧
      (if request.isSubmit then ∃ d, H.session.stage = .submitting d
        else H.session.stage = .idle)
  | .fetching _ token .. | .building _ token _ => H.token = token ∧ H.session.isLate = true
  | .aborting .. => H.session.isLate = true
  | .working .. => ∃ id number, request = .chooseSheet id number
  | .unlisted _ => H.listed = false
  | _ => True

/-- What task `t` relies on, where `H` is its session. -/
def Task.Fits (t : Nat) (H : Handle) : Task → Prop
  | .handler x => (∀ id, x.request.id? = some id → H.id = id) ∧ x.stage.Fits t x.request H
  | .worker _ => True
  | .submission b => H.token = b.token ∧ H.session.isLate = true

theorem Task.Fits.at_stage {t : Nat} {x : Handler} {H : Handle} {g : Stage}
    (hfits : (Task.handler x).Fits t H) (at_ : x.stage = g) : g.Fits t x.request H :=
  at_ ▸ hfits.2

/-- A session whose submission is carried is late. -/
theorem Task.Fits.late {t h : Nat} {y : Task} {H : Handle} (hfits : y.Fits t H)
    (hc : y.carries = some h) : H.session.isLate = true := by
  cases y with
  | handler x =>
    cases hx : x.stage with
    | inside k =>
      simp only [Task.carries, Handler.carries, hx] at hc
      split at hc
      · rename_i hsubmit
        obtain ⟨-, hlate⟩ := hfits.at_stage hx
        rw [if_pos hsubmit] at hlate
        obtain ⟨d, hd⟩ := hlate
        exact Session.isLate_of_submitting hd
      · cases hc
    | fetching k token due answer => exact (hfits.at_stage hx).2
    | aborting k e => exact hfits.at_stage hx
    | building k token table => exact (hfits.at_stage hx).2
    | _ => simp [Task.carries, Handler.carries, hx] at hc
  | worker w => cases hc
  | submission b => exact hfits.2

/-- The tasks of the state can rely on what they rely on, and no two of them carry the
submission of one session. -/
structure Sound (s : State) : Prop where
  inRange : s.InRange
  fits : ∀ {t h : Nat} {y : Task} {H : Handle}, s.tasks[t]? = some y → y.place = some h →
    s.handles[h]? = some H → y.Fits t H
  alone : ∀ {t u h : Nat} {y z : Task}, s.tasks[t]? = some y → s.tasks[u]? = some z →
    y.carries = some h → z.carries = some h → t = u

theorem sound_start (firstId wall : Nat) : Sound (State.start firstId wall) where
  inRange := by simp [State.InRange, State.start]
  fits := by simp [State.start]
  alone := by simp [State.start]

/-! ## What a task finds -/

section acts
variable {env : Surroundings} {s : State} {l : Label} {t h : Nat} {y : Task} {H : Handle}
  {e : Effect}

/-- A task that acts on a session is busy with it, or has just looked it up. -/
theorem Acts.found (acts : Acts env s t h l y H e) (hplace : y.place = some h → y.Fits t H) :
    y.Fits t H := by
  cases acts with
  | look at_ asks listed | unlist at_ asks listed | order at_ asks listed =>
    exact ⟨by simp [asks, Request.id?], by rw [at_]; trivial⟩
  | queue at_ asks listed => exact ⟨by simp [asks], by rw [at_]; trivial⟩
  | refuse at_ =>
    refine hplace ?_
    rcases at_ with at_ | ⟨w, at_⟩ | ⟨token, table, at_, -⟩ <;> simp [Task.place, Stage.place, at_]
  | read of | advance of | abandon of | record of => exact hplace (congrArg some of)
  | edit at_ | restart at_ | enter at_ | giveUp at_ | arm at_ | armFetching at_ | disarm at_
  | fetched at_ | fetchFailed at_ | takeBack at_ | launch at_ | worked at_ | present at_
  | remove at_ | release at_ =>
    exact hplace (by simp [Task.place, Stage.place, at_])

/-- A task acts on no other session than the one it is busy with. -/
theorem Acts.at_place (acts : Acts env s t h l y H e) {k : Nat} (hplace : y.place = some k) :
    k = h := by
  cases acts with
  | look at_ | queue at_ | order at_ | unlist at_ =>
    simp [Task.place, Stage.place, at_] at hplace
  | refuse at_ =>
    rcases at_ with at_ | ⟨w, at_⟩ | ⟨token, table, at_, -⟩ <;>
      simpa [Task.place, Stage.place, at_, eq_comm] using hplace
  | read of | advance of | abandon of | record of => exact (Option.some.inj hplace).symm.trans of
  | edit at_ | restart at_ | enter at_ | giveUp at_ | arm at_ | armFetching at_ | disarm at_
  | fetched at_ | fetchFailed at_ | takeBack at_ | launch at_ | worked at_ | present at_
  | remove at_ | release at_ =>
    simpa [Task.place, Stage.place, at_, eq_comm] using hplace

theorem Sound.found (hs : Sound s) (ht : s.tasks[t]? = some y) (hh : s.handles[h]? = some H)
    (acts : Acts env s t h l y H e) : y.Fits t H :=
  acts.found fun hplace => hs.fits ht hplace hh

end acts

/-! ## What one task does to the others

A task changes a session only under its lock, and arms the token or reopens the session only if
it carries the submission. -/

/-- What task `t`, which is `y`, leaves alone when it turns session `h` from `H` to `H'`. -/
structure Frame (t h : Nat) (y : Task) (H H' : Handle) : Prop where
  id : H'.id = H.id
  unlisted : H.listed = false → H'.listed = false
  locked : ∀ u, H.holder = some u → u = t ∨ (H'.holder = some u ∧ H'.session = H.session)
  late : H.session.isLate = true → H'.session.isLate = true ∨ y.carries = some h
  token : H'.token = H.token ∨ y.carries = some h

section acts
variable {env : Surroundings} {s : State} {l : Label} {t h : Nat} {y : Task} {H : Handle}
  {e : Effect}

theorem Acts.frame (acts : Acts env s t h l y H e) (hfits : y.Fits t H) :
    Frame t h y H e.handle := by
  cases acts with
  | edit at_ asks free reviewed =>
    exact ⟨rfl, id, by simp [free], by simp [Session.isLate, reviewed], .inl rfl⟩
  | restart _ _ free | enter _ _ free | giveUp _ _ free =>
    -- The lock was free, and the session is late afterwards in any case.
    exact ⟨rfl, id, by simp [free], fun _ => .inl rfl, .inl rfl⟩
  | arm at_ asks | armFetching at_ asks =>
    obtain ⟨hholder, -⟩ := hfits.at_stage at_
    have hcarries := Handler.carries_inside at_ (by simp [asks, Request.isSubmit])
    exact ⟨rfl, id, fun u hu => .inl (Option.some.inj (hu.symm.trans hholder)), .inl,
      .inr hcarries⟩
  | disarm at_ | release at_ =>
    -- The lock was the task's own.
    obtain ⟨hholder, -⟩ := hfits.at_stage at_
    exact ⟨rfl, id, fun u hu => .inl (Option.some.inj (hu.symm.trans hholder)), .inl, .inl rfl⟩
  | takeBack at_ free =>
    exact ⟨rfl, id, by simp [free], fun _ => .inr (Handler.carries_aborting at_), .inl rfl⟩
  | @read w H result of free =>
    refine ⟨rfl, id, by simp [free], fun hlate => .inl ?_, .inl rfl⟩
    rcases H.session.chooseSheet_cases w.sheet with hsame | ⟨hearly, -⟩ | ⟨hearly, -⟩
    · simp [hsame, hlate]
    · simp [hearly] at hlate
    · simp [hearly] at hlate
  | @record b H summary of unfinished ended free =>
    refine ⟨rfl, id, by simp [free], fun hlate => .inl ?_, .inl rfl⟩
    rcases H.session.complete_cases summary with ⟨d, -, hcomplete⟩ | ⟨-, hsame⟩
    · simp [hcomplete, Session.isLate]
    · simp [hsame, hlate]
  | unlist at_ asks listed => exact ⟨rfl, fun _ => rfl, fun u hu => .inr ⟨hu, rfl⟩, .inl, .inl rfl⟩
  | look | queue | order | refuse | fetched | fetchFailed | launch | worked | present | remove
  | advance | abandon =>
    exact ⟨rfl, id, fun u hu => .inr ⟨hu, rfl⟩, .inl, .inl rfl⟩

/-- What fits a session still fits it after another task has acted, which carries nothing that
this one carries. -/
theorem Frame.fits {H' : Handle} {u : Nat} {z : Task} (hframe : Frame t h y H H') (hne : u ≠ t)
    (halone : y.carries = some h → z.carries ≠ some h) (hplace : z.place = some h)
    (hfits : z.Fits u H) : z.Fits u H' := by
  -- Late sessions and tokens matter to those only who carry the submission, so `y` does not.
  have hlate : z.carries = some h → H'.session.isLate = true := by
    intro hc
    rcases hframe.late (hfits.late hc) with hlate | hcy
    · exact hlate
    · exact absurd hc (halone hcy)
  have htoken : z.carries = some h → H'.token = H.token := by
    intro hc
    rcases hframe.token with htoken | hcy
    · exact htoken
    · exact absurd hc (halone hcy)
  cases z with
  | handler x =>
    refine ⟨fun id hreq => hframe.id.trans (hfits.1 id hreq), ?_⟩
    have hplace' : x.stage.place = some h := hplace
    cases hx : x.stage with
    | inside k =>
      -- Whoever holds the lock finds the session as it was.
      obtain ⟨hholder, hsession⟩ := hfits.at_stage hx
      rcases hframe.locked u hholder with hut | ⟨hholder', hsame⟩
      · exact absurd hut hne
      · exact ⟨hholder', hsame ▸ hsession⟩
    | working k w => exact hfits.at_stage hx
    | unlisted k => exact hframe.unlisted (hfits.at_stage hx)
    | fetching k token due answer =>
      obtain rfl : k = h := by simpa [Stage.place, hx] using hplace'
      have hc := Handler.carries_fetching hx
      exact ⟨(htoken hc).trans (hfits.at_stage hx).1, hlate hc⟩
    | building k token table =>
      obtain rfl : k = h := by simpa [Stage.place, hx] using hplace'
      have hc := Handler.carries_building hx
      exact ⟨(htoken hc).trans (hfits.at_stage hx).1, hlate hc⟩
    | aborting k e =>
      obtain rfl : k = h := by simpa [Stage.place, hx] using hplace'
      exact hlate (Handler.carries_aborting hx)
    | _ => trivial
  | worker w => trivial
  | submission b => exact ⟨(htoken hplace).trans hfits.1, hlate hplace⟩

/-! ## What a task leaves behind of itself -/

/-- The task itself and what it spawns are busy with the same session, if with any, and can rely
on it. -/
theorem Acts.fits (acts : Acts env s t h l y H e) (hfits : y.Fits t H) :
    (∀ k, e.task.place = some k → k = h ∧ e.task.Fits t e.handle) ∧
      ∀ z ∈ e.spawned, z.place = some h ∧ ∀ u, z.Fits u e.handle := by
  cases acts with
  | look at_ asks listed =>
    refine ⟨fun k hk => ⟨(Option.some.inj hk).symm, ?_, trivial⟩, by simp⟩
    simp [asks, Request.id?]
  | queue at_ asks listed =>
    refine ⟨fun k hk => ⟨(Option.some.inj hk).symm, ?_, trivial⟩, by simp⟩
    simp [asks]
  | order at_ asks listed =>
    refine ⟨fun k hk => ⟨(Option.some.inj hk).symm, ?_, _, _, asks⟩, ?_⟩
    · simp [asks, Request.id?]
    · simp [Task.place, Task.Fits]
  | unlist at_ asks listed =>
    refine ⟨fun k hk => ⟨(Option.some.inj hk).symm, ?_, rfl⟩, by simp⟩
    simp [asks, Request.id?]
  | refuse | takeBack | present | remove | release =>
    refine ⟨fun k hk => ?_, by simp⟩
    cases hk
  | edit | restart | disarm | worked =>
    exact ⟨fun k hk => ⟨(Option.some.inj hk).symm, hfits.1, trivial⟩, by simp⟩
  | @enter x H d id organization caller given at_ asks free reviewed =>
    refine ⟨fun k hk => ⟨(Option.some.inj hk).symm, hfits.1, rfl, ?_⟩, by simp⟩
    rw [if_pos (by simp [asks, Request.isSubmit])]
    exact ⟨d, rfl⟩
  | giveUp at_ asks free =>
    refine ⟨fun k hk => ⟨(Option.some.inj hk).symm, hfits.1, rfl, ?_⟩, by simp⟩
    rw [if_neg (by simp [asks, Request.isSubmit])]
    rfl
  | arm at_ asks | armFetching at_ asks =>
    have hlate := hfits.late (Handler.carries_inside at_ (by simp [asks, Request.isSubmit]))
    exact ⟨fun k hk => ⟨(Option.some.inj hk).symm, hfits.1, rfl, hlate⟩, by simp⟩
  | fetched at_ =>
    have hstage := hfits.at_stage at_
    exact ⟨fun k hk => ⟨(Option.some.inj hk).symm, hfits.1, hstage⟩, by simp⟩
  | fetchFailed at_ =>
    have hstage := hfits.at_stage at_
    exact ⟨fun k hk => ⟨(Option.some.inj hk).symm, hfits.1, hstage.2⟩, by simp⟩
  | launch at_ asks free submitted =>
    have hstage := hfits.at_stage at_
    refine ⟨fun k hk => ⟨(Option.some.inj hk).symm, hfits.1, trivial⟩, ?_⟩
    simp only [List.mem_singleton, forall_eq]
    exact ⟨rfl, fun u => hstage⟩
  | read of free => exact ⟨fun k hk => ⟨(Option.some.inj hk).symm.trans of, trivial⟩, by simp⟩
  | advance of | abandon of =>
    exact ⟨fun k hk => ⟨(Option.some.inj hk).symm.trans of, hfits⟩, by simp⟩
  | @record b H summary of unfinished ended free =>
    refine ⟨fun k hk => ⟨(Option.some.inj hk).symm.trans of, hfits.1, ?_⟩, by simp⟩
    rcases H.session.complete_cases summary with ⟨d, -, hcomplete⟩ | ⟨-, hsame⟩
    · simp [hcomplete, Session.isLate]
    · simpa [hsame] using hfits.2

/-- Whoever carries the submission of a session now has been handed it by the task that carried
it, or has begun it in a review. -/
theorem Acts.carries (acts : Acts env s t h l y H e) {z : Task}
    (hz : z = e.task ∨ z ∈ e.spawned) {k : Nat} (hc : z.carries = some k) :
    k = h ∧ (y.carries = some h ∨ H.session.isLate = false) := by
  cases acts with
  | enter at_ asks free reviewed =>
    obtain rfl : z = _ := by simpa using hz
    have hk : k = h := by
      simpa [Task.carries, Handler.carries, Handler.to, asks, Request.isSubmit, eq_comm] using hc
    exact ⟨hk, .inr (by simp [Session.isLate, reviewed])⟩
  | giveUp at_ asks free =>
    obtain rfl : z = _ := by simpa using hz
    simp [Task.carries, Handler.carries, Handler.to, asks, Request.isSubmit] at hc
  | arm at_ asks | armFetching at_ asks =>
    obtain rfl : z = _ := by simpa using hz
    refine ⟨(Option.some.inj hc).symm, .inl ?_⟩
    exact Handler.carries_inside at_ (by simp [asks, Request.isSubmit])
  | fetched at_ | fetchFailed at_ =>
    obtain rfl : z = _ := by simpa using hz
    exact ⟨(Option.some.inj hc).symm, .inl (Handler.carries_fetching at_)⟩
  | launch at_ asks free submitted =>
    rcases hz with rfl | hz
    · cases hc
    · obtain rfl := List.mem_singleton.1 hz
      exact ⟨(Option.some.inj hc).symm, .inl (Handler.carries_building at_)⟩
  | order at_ asks listed =>
    rcases hz with rfl | hz
    · cases hc
    · obtain rfl := List.mem_singleton.1 hz
      cases hc
  | advance of | abandon of | record of =>
    obtain rfl : z = _ := by simpa using hz
    exact ⟨(Option.some.inj hc).symm.trans of, .inl (congrArg some of)⟩
  | look | queue | unlist | refuse | edit | restart | disarm | takeBack | worked | present
  | remove | read | release =>
    obtain rfl : z = _ := by simpa using hz
    cases hc

theorem Acts.not_handler (acts : Acts env s t h l y H e) {x : Handler} :
    .handler x ∉ e.spawned := by
  cases acts <;> simp

/-- What carries a submission is spawned only by a task that carries none any more. -/
theorem Acts.one_heir (acts : Acts env s t h l y H e) :
    e.spawned = [] ∨ (e.task.carries = none ∧ ∃ z, e.spawned = [z]) := by
  cases acts with
  | order | launch => exact .inr ⟨rfl, _, rfl⟩
  | _ => exact .inl rfl

/-- A session that is submitting has been so before, or has just come out of a review. -/
theorem Acts.submitting_back (acts : Acts env s t h l y H e) {d : Draft}
    (hd : e.handle.session.stage = .submitting d) :
    H.session.stage = .submitting d ∨
      ∃ x id organization caller given, y = .handler x ∧ x.stage = .atLock h ∧
        x.request = .submit id organization caller given ∧ H.session.stage = .review d ∧
        l = .run t ∧ e.task = x.to (.inside h) ∧ d.problems = [] := by
  cases acts with
  | @enter x H d' id organization caller given at_ asks free reviewed complete =>
    obtain rfl := SessionStage.submitting.inj hd
    exact .inr ⟨x, id, organization, caller, given, rfl, at_, asks, reviewed, rfl, rfl, complete⟩
  | edit | restart | giveUp => simp at hd
  | takeBack =>
    rcases H.session.abort_cases with ⟨d', -, hopen⟩ | ⟨-, hsame⟩
    · simp [hopen] at hd
    · exact .inl (hsame ▸ hd)
  | @read w H =>
    rcases H.session.chooseSheet_cases w.sheet with hsame | ⟨-, d', hread⟩ | ⟨-, hread⟩
    · exact .inl (hsame ▸ hd)
    · simp [hread] at hd
    · simp [hread] at hd
  | @record b H summary =>
    rcases H.session.complete_cases summary with ⟨d', -, hdone⟩ | ⟨-, hsame⟩
    · simp [hdone] at hd
    · exact .inl (hsame ▸ hd)
  | look | queue | order | unlist | refuse | arm | armFetching | disarm | fetched | fetchFailed
  | launch | worked | present | remove | advance | abandon | release =>
    exact .inl hd

end acts

/-! ## Every step keeps a state sound -/

section step
variable {env : Surroundings} {s s' : State} {l : Label} {t h : Nat} {y : Task} {H : Handle}
  {e : Effect}

/-- A session after a task has acted: the one that it has acted on, or one that stays. -/
theorem handle_apply_cases {k : Nat} {K : Handle} (hk : (s.apply t h e).handles[k]? = some K)
    (hh : s.handles[h]? = some H) :
    (k = h ∧ K = e.handle) ∨ (k ≠ h ∧ s.handles[k]? = some K) := by
  by_cases hkh : k = h
  · subst hkh
    rw [handle_apply_self e hh] at hk
    exact .inl ⟨rfl, (Option.some.inj hk).symm⟩
  · rw [handle_apply_ne e hkh] at hk
    exact .inr ⟨hkh, hk⟩

theorem Sound.fits_apply (hs : Sound s) (ht : s.tasks[t]? = some y) (hh : s.handles[h]? = some H)
    (acts : Acts env s t h l y H e) {u k : Nat} {z : Task} {K : Handle}
    (hz : (s.apply t h e).tasks[u]? = some z) (hplace : z.place = some k)
    (hk : (s.apply t h e).handles[k]? = some K) : z.Fits u K := by
  have hfound := hs.found ht hh acts
  rcases task_apply_cases e hz with ⟨rfl, rfl⟩ | ⟨hne, hold⟩ | ⟨-, hnew⟩
  · obtain ⟨rfl, hfits⟩ := (acts.fits hfound).1 k hplace
    rw [handle_apply_self e hh] at hk
    exact Option.some.inj hk ▸ hfits
  · rcases handle_apply_cases hk hh with ⟨rfl, rfl⟩ | ⟨-, hk⟩
    · -- Another task at the same session: the frame keeps what it relies on.
      refine (acts.frame hfound).fits hne (fun hc hc' => ?_) hplace (hs.fits hold hplace hh)
      exact hne (hs.alone hold ht hc' hc)
    · exact hs.fits hold hplace hk
  · obtain ⟨hplace', hfits⟩ := (acts.fits hfound).2 z (List.mem_of_getElem? hnew)
    obtain rfl : k = h := Option.some.inj (hplace.symm.trans hplace')
    rw [handle_apply_self e hh] at hk
    exact Option.some.inj hk ▸ hfits u

/-- No task that has stayed as it was carries what the acting task hands on. -/
theorem Sound.not_carries (hs : Sound s) (ht : s.tasks[t]? = some y) (hh : s.handles[h]? = some H)
    (acts : Acts env s t h l y H e) {z z' : Task} {u k : Nat} (hz : z = e.task ∨ z ∈ e.spawned)
    (hc : z.carries = some k) (hne : u ≠ t) (hz' : s.tasks[u]? = some z') :
    z'.carries ≠ some k := by
  intro hc'
  obtain ⟨rfl, hcy | hearly⟩ := acts.carries hz hc
  · exact hne (hs.alone hz' ht hc' hcy)
  · -- The session was still in review, so nobody carried its submission.
    have hlate := (hs.fits hz' (place_of_carries hc') hh).late hc'
    rw [hlate] at hearly
    cases hearly

theorem Sound.alone_apply (hs : Sound s) (ht : s.tasks[t]? = some y)
    (hh : s.handles[h]? = some H) (acts : Acts env s t h l y H e) {u v k : Nat} {z w : Task}
    (hz : (s.apply t h e).tasks[u]? = some z) (hw : (s.apply t h e).tasks[v]? = some w)
    (hcz : z.carries = some k) (hcw : w.carries = some k) : u = v := by
  -- Each of the two is the task that has acted, has stayed as it was, or has been spawned.
  rcases task_apply_cases e hz with ⟨rfl, rfl⟩ | ⟨hu, hzold⟩ | ⟨hu, hznew⟩ <;>
    rcases task_apply_cases e hw with ⟨rfl, rfl⟩ | ⟨hv, hwold⟩ | ⟨hv, hwnew⟩
  · rfl
  · exact absurd hcw (hs.not_carries ht hh acts (.inl rfl) hcz hv hwold)
  · -- Whoever spawns a carrier carries nothing itself any more.
    rcases acts.one_heir with hnone | ⟨hnone, -⟩
    · simp [hnone] at hwnew
    · simp [hnone] at hcz
  · exact absurd hcz (hs.not_carries ht hh acts (.inl rfl) hcw hu hzold)
  · exact hs.alone hzold hwold hcz hcw
  · exact absurd hcz (hs.not_carries ht hh acts (.inr (List.mem_of_getElem? hwnew)) hcw hu hzold)
  · rcases acts.one_heir with hnone | ⟨hnone, -⟩
    · simp [hnone] at hznew
    · simp [hnone] at hcw
  · exact absurd hcw (hs.not_carries ht hh acts (.inr (List.mem_of_getElem? hznew)) hcz hv hwold)
  · -- Both have been spawned in this step, which spawns one task at most.
    rcases acts.one_heir with hnone | ⟨-, x, hone⟩
    · simp [hnone] at hznew
    · obtain ⟨hzlt, -⟩ := List.getElem?_eq_some_iff.1 hznew
      obtain ⟨hwlt, -⟩ := List.getElem?_eq_some_iff.1 hwnew
      simp only [hone, List.length_singleton] at hzlt hwlt
      omega

theorem Sound.inRange_apply (hs : Sound s) (ht : s.tasks[t]? = some y)
    (hh : s.handles[h]? = some H) (acts : Acts env s t h l y H e) : (s.apply t h e).InRange := by
  intro u z k hz hplace
  have hk : k < s.handles.length := by
    rcases task_apply_cases e hz with ⟨rfl, rfl⟩ | ⟨-, hold⟩ | ⟨-, hnew⟩
    · obtain ⟨rfl, -⟩ := (acts.fits (hs.found ht hh acts)).1 k hplace
      exact (List.getElem?_eq_some_iff.1 hh).1
    · obtain ⟨K, hK⟩ := hs.inRange u z k hold hplace
      exact (List.getElem?_eq_some_iff.1 hK).1
    · obtain ⟨hplace', -⟩ := (acts.fits (hs.found ht hh acts)).2 z (List.mem_of_getElem? hnew)
      obtain rfl : k = h := Option.some.inj (hplace.symm.trans hplace')
      exact (List.getElem?_eq_some_iff.1 hh).1
  exact ⟨_, List.getElem?_eq_getElem (by simpa using hk)⟩

theorem Sound.apply (hs : Sound s) (ht : s.tasks[t]? = some y) (hh : s.handles[h]? = some H)
    (acts : Acts env s t h l y H e) : Sound (s.apply t h e) where
  inRange := hs.inRange_apply ht hh acts
  fits := hs.fits_apply ht hh acts
  alone := hs.alone_apply ht hh acts

/-- Sessions stay as they are, and no task starts to be busy with one. -/
theorem Sound.of_bare (hs : Sound s) (hhandles : s'.handles = s.handles)
    (htasks : ∀ (u : Nat) (z : Task), s'.tasks[u]? = some z →
      s.tasks[u]? = some z ∨ z.place = none) :
    Sound s' where
  inRange := by
    intro u z k hz hplace
    rcases htasks u z hz with hold | hbare
    · rw [hhandles]
      exact hs.inRange u z k hold hplace
    · simp [hbare] at hplace
  fits := by
    intro u k z K hz hplace hk
    rcases htasks u z hz with hold | hbare
    · rw [hhandles] at hk
      exact hs.fits hold hplace hk
    · simp [hbare] at hplace
  alone := by
    intro u v k z w hz hw hcz hcw
    rcases htasks u z hz with hzold | hbare
    · rcases htasks v w hw with hwold | hbare
      · exact hs.alone hzold hwold hcz hcw
      · simp [place_of_carries hcw] at hbare
    · simp [place_of_carries hcz] at hbare

theorem task_setTask_cases {u : Nat} {z w : Task} (hz : (s.setTask t w).tasks[u]? = some z) :
    (u = t ∧ z = w) ∨ (u ≠ t ∧ s.tasks[u]? = some z) := by
  rw [State.setTask, List.getElem?_set] at hz
  split at hz
  · rename_i htu
    split at hz
    · exact .inl ⟨htu.symm, (Option.some.inj hz).symm⟩
    · cases hz
  · rename_i htu
    exact .inr ⟨fun h => htu h.symm, hz⟩

theorem getElem?_concat_cases {α : Type} {xs : List α} {a b : α} {i : Nat}
    (hi : (xs ++ [a])[i]? = some b) : xs[i]? = some b ∨ (i = xs.length ∧ b = a) := by
  rw [List.getElem?_append] at hi
  split at hi
  · exact .inl hi
  · rw [List.getElem?_singleton] at hi
    split at hi
    · exact .inr ⟨by omega, (Option.some.inj hi).symm⟩
    · cases hi

/-- A session that has just been put into the store is not known to any task but the one that
has brought it. -/
theorem Sound.create (hs : Sound s) {x : Handler} (hbare : x.request.id? = none) (K : Handle) :
    Sound
      { s with
        handles := s.handles ++ [K]
        tasks := s.tasks.set t (x.to (.viewing s.handles.length .created))
        tokens := s.tokens + 1
        nextId := s.nextId + 1 } := by
  -- The tasks that are there are busy with the sessions that are there.
  have hold : ∀ (u k : Nat) (z : Task), s.tasks[u]? = some z → z.place = some k →
      k < s.handles.length := by
    intro u k z hz hplace
    obtain ⟨H, hH⟩ := hs.inRange u z k hz hplace
    exact (List.getElem?_eq_some_iff.1 hH).1
  refine ⟨?inRange, ?fits, ?alone⟩
  case inRange =>
    intro u z k hz hplace
    have hk : k < (s.handles ++ [K]).length := by
      rw [List.length_append, List.length_singleton]
      rcases task_setTask_cases hz with ⟨-, rfl⟩ | ⟨-, hz⟩
      · obtain rfl := Option.some.inj hplace
        omega
      · have := hold u k z hz hplace
        omega
    exact ⟨_, List.getElem?_eq_getElem hk⟩
  case fits =>
    intro u k z H hz hplace hk
    rcases task_setTask_cases hz with ⟨-, rfl⟩ | ⟨-, hz⟩
    · exact ⟨by simp [hbare], trivial⟩
    · have hlt := hold u k z hz hplace
      simp only [List.getElem?_append_left hlt] at hk
      exact hs.fits hz hplace hk
  case alone =>
    intro u v k z w hz hw hcz hcw
    rcases task_setTask_cases hz with ⟨-, rfl⟩ | ⟨-, hzold⟩
    · cases hcz
    · rcases task_setTask_cases hw with ⟨-, rfl⟩ | ⟨-, hwold⟩
      · cases hcw
      · exact hs.alone hzold hwold hcz hcw

theorem handle_sweep {maxIdle k : Nat} {K : Handle}
    (hk : (s.sweep maxIdle).handles[k]? = some K) :
    ∃ H, s.handles[k]? = some H ∧
      K = { H with listed := H.listed && !H.isExpired s.wall maxIdle } := by
  simp only [State.sweep, List.getElem?_map, Option.map_eq_some_iff] at hk
  obtain ⟨H, hH, rfl⟩ := hk
  exact ⟨H, hH, rfl⟩

/-- A sweep changes nothing that a task relies on. -/
theorem Sound.sweep (hs : Sound s) (maxIdle : Nat) : Sound (s.sweep maxIdle) where
  inRange := by
    intro u z k hz hplace
    obtain ⟨H, hH⟩ := hs.inRange u z k hz hplace
    exact ⟨{ H with listed := H.listed && !H.isExpired s.wall maxIdle }, by simp [State.sweep, hH]⟩
  fits := by
    intro u k z K hz hplace hk
    obtain ⟨H, hH, rfl⟩ := handle_sweep hk
    have hfits := hs.fits hz hplace hH
    cases z with
    | handler x =>
      refine ⟨hfits.1, ?_⟩
      cases hx : x.stage with
      | unlisted k =>
        have hunlisted : H.listed = false := hfits.at_stage hx
        simp [Stage.Fits, hunlisted]
      | _ => exact hfits.at_stage hx
    | worker w => trivial
    | submission b => exact hfits
  alone := hs.alone

/-- Whoever carries a submission after a move has carried it before, or has come from a task that
has acted on the session. -/
theorem Move.carrier (m : Move env s l s') {u k : Nat} {z : Task} (hz : s'.tasks[u]? = some z)
    (hc : z.carries = some k) :
    s.tasks[u]? = some z ∨ ∃ t y H e, s.tasks[t]? = some y ∧ s.handles[k]? = some H ∧
      Acts env s t k l y H e ∧ s' = s.apply t k e ∧ ((u = t ∧ z = e.task) ∨ z ∈ e.spawned) := by
  cases m with
  | stay | pass | sweep => exact .inl hz
  | arrive request =>
    rcases getElem?_concat_cases hz with hold | ⟨-, rfl⟩
    · exact .inl hold
    · cases hc
  | decline | create | leave =>
    rcases task_setTask_cases hz with ⟨-, rfl⟩ | ⟨-, hold⟩
    · cases hc
    · exact .inl hold
  | @act l t h y H e task handle acts =>
    -- What the acting task leaves behind is busy with the session that it has acted on.
    have hacted : (u = t ∧ z = e.task) ∨ z ∈ e.spawned →
        ∃ t' y' H' e', s.tasks[t']? = some y' ∧ s.handles[k]? = some H' ∧
          Acts env s t' k l y' H' e' ∧ s.apply t h e = s.apply t' k e' ∧
          ((u = t' ∧ z = e'.task) ∨ z ∈ e'.spawned) := by
      intro hnew
      obtain ⟨rfl, -⟩ := acts.carries (hnew.imp_left And.right) hc
      exact ⟨t, y, H, e, task, handle, acts, rfl, hnew⟩
    rcases task_apply_cases e hz with hactor | ⟨-, hold⟩ | ⟨-, hspawned⟩
    · exact .inr (hacted (.inl hactor))
    · exact .inl hold
    · exact .inr (hacted (.inr (List.mem_of_getElem? hspawned)))

/-- A session after a move is the one before, but for being taken out of the store; or it is new;
or a task has acted on it. -/
theorem Move.origin (m : Move env s l s') {k : Nat} {K' : Handle}
    (hk : s'.handles[k]? = some K') :
    (∃ K, s.handles[k]? = some K ∧ (K'.listed = true → K.listed = true) ∧
        K' = { K with listed := K'.listed }) ∨
      (s.handles[k]? = none ∧ K'.session.isLate = false) ∨
      ∃ t y H e, s.tasks[t]? = some y ∧ s.handles[k]? = some H ∧ Acts env s t k l y H e ∧
        s' = s.apply t k e ∧ K' = e.handle := by
  cases m with
  | stay | arrive | decline | leave | pass => exact .inl ⟨K', hk, id, rfl⟩
  | create task at_ asks early =>
    rcases getElem?_concat_cases hk with hold | ⟨rfl, rfl⟩
    · exact .inl ⟨K', hold, id, rfl⟩
    · exact .inr (.inl ⟨List.getElem?_eq_none (Nat.le_refl _), early⟩)
  | @act l t h y H e task handle acts =>
    rcases handle_apply_cases hk handle with ⟨rfl, rfl⟩ | ⟨-, hold⟩
    · exact .inr (.inr ⟨t, y, H, e, task, handle, acts, rfl, rfl⟩)
    · exact .inl ⟨K', hold, id, rfl⟩
  | sweep maxIdle =>
    obtain ⟨K, hK, rfl⟩ := handle_sweep hk
    refine .inl ⟨K, hK, fun hlisted => ?_, rfl⟩
    simp only [Bool.and_eq_true] at hlisted
    exact hlisted.1

/-- A session that has been there before is the same after a move, but for being taken out of the
store; or a task has acted on it. -/
theorem Move.same_or_acted (m : Move env s l s') {k : Nat} {K K' : Handle}
    (hk : s.handles[k]? = some K) (hk' : s'.handles[k]? = some K') :
    ((K'.listed = true → K.listed = true) ∧ K' = { K with listed := K'.listed }) ∨
      ∃ t y e, s.tasks[t]? = some y ∧ Acts env s t k l y K e ∧ s' = s.apply t k e ∧
        K' = e.handle := by
  rcases m.origin hk' with ⟨L, hl, hlisted, hsame⟩ | ⟨hnone, -⟩ | ⟨t, y, L, e, ht, hl, acts, hrest⟩
  · obtain rfl : K = L := Option.some.inj (hk.symm.trans hl)
    exact .inl ⟨hlisted, hsame⟩
  · simp [hk] at hnone
  · obtain rfl : K = L := Option.some.inj (hk.symm.trans hl)
    exact .inr ⟨t, y, e, ht, acts, hrest⟩

/-- A handler that has no session to speak of: it has not looked for one, has ended without
showing one, or has just put one into the store. -/
def Handler.IsApart (s : State) (x : Handler) : Prop :=
  x.stage = .arrived ∨ x.stage = .dropped ∨
    (∃ r, x.stage = .answered r ∧ (∀ o v, r ≠ .view o v) ∧ r ≠ .removed) ∨
    (x.stage = .viewing s.handles.length .created ∧ x.request.id? = none)

/-- A handler after a move is one before, or has no session to speak of; or it has acted on one. -/
theorem Move.handler_origin (m : Move env s l s') {u : Nat} {z : Handler}
    (hz : s'.tasks[u]? = some (.handler z)) :
    s.tasks[u]? = some (.handler z) ∨ z.IsApart s ∨
      ∃ y h H e, s.tasks[u]? = some y ∧ s.handles[h]? = some H ∧ Acts env s u h l y H e ∧
        s' = s.apply u h e ∧ e.task = .handler z := by
  cases m with
  | stay | pass | sweep => exact .inl hz
  | arrive request =>
    rcases getElem?_concat_cases hz with hold | ⟨-, hnew⟩
    · exact .inl hold
    · obtain rfl := Task.handler.inj hnew
      exact .inr (.inl (.inl rfl))
  | @decline t x r task at_ bare kept =>
    rcases task_setTask_cases hz with ⟨-, hnew⟩ | ⟨-, hold⟩
    · obtain rfl := Task.handler.inj hnew
      exact .inr (.inl (.inr (.inr (.inl ⟨r, rfl, bare, kept⟩))))
    · exact .inl hold
  | create task at_ asks early =>
    rcases task_setTask_cases hz with ⟨-, hnew⟩ | ⟨-, hold⟩
    · obtain rfl := Task.handler.inj hnew
      exact .inr (.inl (.inr (.inr (.inr ⟨rfl, by simp [asks, Request.id?]⟩))))
    · exact .inl hold
  | leave task outside =>
    rcases task_setTask_cases hz with ⟨-, hnew⟩ | ⟨-, hold⟩
    · obtain rfl := Task.handler.inj hnew
      exact .inr (.inl (.inr (.inl rfl)))
    · exact .inl hold
  | @act l t h y H e task handle acts =>
    rcases task_apply_cases e hz with ⟨rfl, hnew⟩ | ⟨-, hold⟩ | ⟨-, hspawned⟩
    · exact .inr (.inr ⟨y, h, H, e, task, handle, acts, rfl, hnew.symm⟩)
    · exact .inl hold
    · exact absurd (List.mem_of_getElem? hspawned) acts.not_handler

/-- Every move leads from a sound state to a sound one. -/
theorem Sound.move (hs : Sound s) (m : Move env s l s') : Sound s' := by
  cases m with
  | stay => exact hs
  | arrive request =>
    refine hs.of_bare rfl fun u z hz => ?_
    rcases getElem?_concat_cases hz with hold | ⟨-, rfl⟩
    · exact .inl hold
    · exact .inr rfl
  | decline task at_ bare kept =>
    refine hs.of_bare rfl fun u z hz => ?_
    rcases task_setTask_cases hz with ⟨-, rfl⟩ | ⟨-, hold⟩
    · exact .inr rfl
    · exact .inl hold
  | create task at_ asks early => exact hs.create (by simp [asks, Request.id?]) _
  | act task handle acts => exact hs.apply task handle acts
  | leave task outside =>
    refine hs.of_bare rfl fun u z hz => ?_
    rcases task_setTask_cases hz with ⟨-, rfl⟩ | ⟨-, hold⟩
    · exact .inr rfl
    · exact .inl hold
  | pass ms wallMs => exact hs.of_bare rfl fun u z hz => .inl hz
  | sweep maxIdle => exact hs.sweep maxIdle

end step

/-! ## Runs -/

section run
variable {env : Surroundings} {s : State}

@[simp] theorem after_nil : s.after env [] = s := rfl

theorem after_append (before later : List Label) :
    s.after env (before ++ later) = (s.after env before).after env later :=
  List.foldl_append

theorem after_concat (labels : List Label) (l : Label) :
    s.after env (labels ++ [l]) = step env (s.after env labels) l := by
  simp [State.after]

/-- What holds in a sound state and is kept by every move, holds ever after. -/
theorem Sound.keeps {I : State → Prop} (env : Surroundings) (hs : Sound s) (hI : I s)
    (keeps : ∀ {s l s'}, Sound s → I s → Move env s l s' → I s') (labels : List Label) :
    Sound (s.after env labels) ∧ I (s.after env labels) := by
  -- The last label is the one that is made a move, so the induction goes from the end.
  induction labels using List.reverseRecOn with
  | nil => exact ⟨hs, hI⟩
  | append_singleton labels l ih =>
    obtain ⟨hsound, hkept⟩ := ih
    rw [after_concat]
    have hmove := move_step env hsound.inRange l
    exact ⟨hsound.move hmove, keeps hsound hkept hmove⟩

/-- What holds at the start and is kept by every move, holds in every state that is reached. -/
theorem Reachable.keeps {I : State → Prop} (hr : Reachable env s)
    (start : ∀ firstId wall, I (State.start firstId wall))
    (keeps : ∀ {s l s'}, Sound s → I s → Move env s l s' → I s') : I s := by
  obtain ⟨firstId, wall, labels, rfl⟩ := hr
  exact ((sound_start firstId wall).keeps env (start firstId wall) keeps labels).2

/-- Every state that is reached is sound. -/
theorem Reachable.sound (hr : Reachable env s) : Sound s :=
  hr.keeps sound_start fun _ hs m => hs.move m

end run

/-! ## A small service

The runs that show what the theorems are about take place in it. -/

namespace Sample

/-- The backend takes its time for every call, of which one is made at a time, and may take its
time for lookup tables. -/
def surroundings (lookup : Option Nat) : Surroundings where
  backend := fun _ => { cancels := false, delay := some 5, answer := .ok (some "x") }
  tables := fun _ => { delay := lookup, answer := .ok [] }
  policy := { concurrency := 1, timeout := 100 }
  requestTimeout := 10

/-- Two rows are uploaded, which can be submitted as they are. -/
def upload : List Label :=
  [.arrive (.upload .properties "names.csv" (.bytes "name\nA\nB\n".toUTF8.toList)), .run 0, .run 0]

/-- The two rows are submitted by task 1. -/
def submit (given : Option (List LookupEntry)) : List Label :=
  upload ++ [.arrive (.submit ⟨0⟩ "acme" none given), .run 1, .run 1, .run 1]

/-- The state after some labels. -/
def after (lookup : Option Nat) (labels : List Label) : State :=
  (State.start 0 0).after (surroundings lookup) labels

end Sample

def Task.handler? : Task → Option Handler
  | .handler x => some x
  | _ => none

/-- What a run has made of a handler is found by a test that can be evaluated. -/
theorem handler_of_any {s : State} {t : Nat} {p : Handler → Bool}
    (passes : (s.tasks[t]?.bind Task.handler?).any p = true) :
    ∃ x, s.tasks[t]? = some (.handler x) ∧ p x = true := by
  obtain ⟨x, hx, hp⟩ := (Option.any_eq_true _ _).1 passes
  obtain ⟨y, hy, hyx⟩ := Option.bind_eq_some_iff.1 hx
  cases y with
  | handler z =>
    obtain rfl : z = x := Option.some.inj hyx
    exact ⟨z, hy, hp⟩
  | worker | submission => cases hyx

end SheetIntake.Service
