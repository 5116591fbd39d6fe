import SheetIntake.Proofs.Batch.Ticks
import SheetIntake.Proofs.Service.Numbers

/-! # Cancelling is final

    A session that has been given up is idle, and nothing leads from there to a review.
    What could still spoil it are the tasks that have begun before: a fetch whose failure
    takes the submission back, a batch that counts its rows or records its summary.
    `Settled` is the state of a session that none of them changes any more; it is reached
    when the token is cancelled, before the cancelling is answered. -/

namespace SheetIntake.Service

/-- The session is idle, no rows are counted for it, and its token is cancelled. -/
def Settled (h : Nat) (s : State) : Prop :=
  ∃ H, s.handles[h]? = some H ∧ H.session.stage = .idle ∧ H.progress = 0 ∧ H.token ∈ s.cancelled

/-- A view that shows nothing but an import that has not begun. -/
def View.Blank (v : View) : Prop :=
  v.session.status = .idle ∧ v.processed = 0 ∧ v.session.summary? = none ∧
    v.session.table = ⟨[], []⟩ ∧ v.session.mapping = []

theorem blank_view {H : Handle} (idle : H.session.stage = .idle) (zero : H.progress = 0) :
    H.view.Blank := by
  simp [View.Blank, Handle.view, Session.status, Session.summary?, Session.table, Session.mapping,
    Session.draft?, idle, zero]

section
variable {env : Surroundings} {s s' : State} {l : Label} {t h : Nat} {y : Task} {H : Handle}
  {e : Effect}

/-! ## Settled sessions stay settled -/

/-- A batch whose token is cancelled makes no call and collects no result. -/
theorem advance_of_cancelled {b : Submission} {run : Batch.Run Payload}
    (running : b.run.verdict = none) (hcancelled : b.token ∈ s.cancelled)
    (polled : run = (b.run.poll env.policy env.backend.quiet s.clock
      { cancelled := s.isCancelled b.token, calls := s.calls.length, events := [] }).1) :
    run.results = b.run.results ∧ newCalls b run = [] := by
  have hworld : s.isCancelled b.token = true := List.contains_iff_mem.2 hcancelled
  rw [Batch.poll_of_cancelled running hworld] at polled
  subst polled
  exact ⟨rfl, by simp [newCalls, Batch.Run.close]⟩

/-- Nothing leads on from a session that is idle, and its token stays the same. -/
theorem Acts.idle (acts : Acts env s t h l y H e) (hfits : y.Fits t H)
    (idle : H.session.stage = .idle) :
    e.handle.session.stage = .idle ∧ e.handle.token = H.token := by
  cases acts with
  | edit at_ asks free reviewed => simp [idle] at reviewed
  | enter at_ asks free reviewed => simp [idle] at reviewed
  | arm at_ asks | armFetching at_ asks =>
    -- The handler is behind the lock, so the session would still be submitting.
    obtain ⟨-, hsession⟩ := hfits.at_stage at_
    simp [asks, Request.isSubmit, idle] at hsession
  | restart | giveUp => exact ⟨rfl, rfl⟩
  | takeBack at_ free =>
    rcases H.session.abort_cases with ⟨d, hd, -⟩ | ⟨-, hsame⟩
    · simp [idle] at hd
    · exact ⟨by simpa [hsame] using idle, rfl⟩
  | @read w H result of free =>
    have hlate := Session.isLate_of_idle idle
    rcases H.session.chooseSheet_cases w.sheet with hsame | ⟨hearly, -⟩ | ⟨hearly, -⟩
    · exact ⟨by simpa [hsame] using idle, rfl⟩
    · simp [hearly] at hlate
    · simp [hearly] at hlate
  | @record b H summary of unfinished ended free =>
    rcases H.session.complete_cases summary with ⟨d, hd, -⟩ | ⟨-, hsame⟩
    · simp [idle] at hd
    · exact ⟨by simpa [hsame] using idle, rfl⟩
  | look | queue | order | unlist | refuse | disarm | fetched | fetchFailed | launch | worked
  | present | remove | advance | abandon | release =>
    exact ⟨idle, rfl⟩

/-- No calls are made for a session whose token is cancelled, and no rows are counted. -/
theorem Acts.quiet (acts : Acts env s t h l y H e) (hfits : y.Fits t H)
    (hcancelled : H.token ∈ s.cancelled) :
    e.calls = [] ∧ (H.progress = 0 → e.handle.progress = 0) := by
  cases acts with
  | restart | enter | disarm => exact ⟨rfl, fun _ => rfl⟩
  | advance of unfinished running polled =>
    obtain ⟨hresults, hcalls⟩ := advance_of_cancelled running (hfits.1 ▸ hcancelled) polled
    exact ⟨hcalls, fun zero => by simp [hresults, zero]⟩
  | look | queue | order | unlist | refuse | edit | giveUp | arm | armFetching | fetched
  | fetchFailed | takeBack | launch | worked | present | remove | read | abandon | record
  | release =>
    exact ⟨rfl, id⟩

theorem Move.quiet (hs : Sound s) (m : Move env s l s') {k : Nat} {K : Handle}
    (hk : s.handles[k]? = some K) (hcancelled : K.token ∈ s.cancelled) :
    s'.callsOf k = s.callsOf k := by
  cases m with
  | @act l t h y H e task handle acts =>
    by_cases hkh : k = h
    · subst hkh
      obtain rfl : K = H := Option.some.inj (hk.symm.trans handle)
      obtain ⟨hcalls, -⟩ := acts.quiet (hs.found task handle acts) hcancelled
      rw [acts.callsOf_self, hcalls, List.append_nil]
    · exact acts.callsOf_ne hkh
  | _ => rfl

/-- A settled session stays settled, and no call is made for it. -/
theorem Settled.move {k : Nat} (hs : Sound s) (hset : Settled k s) (m : Move env s l s') :
    Settled k s' ∧ s'.callsOf k = s.callsOf k := by
  obtain ⟨K, hk, idle, zero, hcancelled⟩ := hset
  obtain ⟨K', hk', -⟩ := m.id_kept hk
  refine ⟨⟨K', hk', ?_⟩, m.quiet hs hk hcancelled⟩
  rcases m.same_or_acted hk hk' with ⟨-, hsame⟩ | ⟨t, y, e, ht, acts, -, rfl⟩
  · rw [hsame]
    exact ⟨idle, zero, m.cancelled_kept hcancelled⟩
  · have hfits := hs.found ht hk acts
    obtain ⟨hidle, htoken⟩ := acts.idle hfits idle
    obtain ⟨-, hzero⟩ := acts.quiet hfits hcancelled
    exact ⟨hidle, hzero zero, htoken ▸ m.cancelled_kept hcancelled⟩

/-! ## What views show -/

theorem Acts.shown (acts : Acts env s t h l y H e) {z : Handler} {o : Occasion} {v : View}
    (hz : e.task = .handler z) (hstage : z.stage = .answered (.view o v)) :
    l = .run t ∧ H.holder = none ∧
      ∃ x, y = .handler x ∧ x.stage = .viewing h o ∧ x.request = z.request ∧ v = H.view := by
  cases acts with
  | @present x H o' at_ free =>
    obtain rfl := Task.handler.inj hz
    obtain ⟨rfl, rfl⟩ : o' = o ∧ H.view = v := by simpa using hstage
    exact ⟨rfl, free, x, rfl, at_, rfl, rfl⟩
  | read | advance | abandon | record => cases hz
  | look | queue | order | unlist | refuse | edit | restart | enter | giveUp | arm | armFetching
  | disarm | fetched | fetchFailed | takeBack | launch | worked | remove | release =>
    obtain rfl := Task.handler.inj hz
    cases hstage

/-- A view that is new is one of a session as it stands, while nobody holds its lock. -/
theorem Move.built (m : Move env s l s') {u : Nat} {z : Handler} {o : Occasion} {v : View}
    (hz : s'.tasks[u]? = some (.handler z)) (hstage : z.stage = .answered (.view o v)) :
    s.tasks[u]? = some (.handler z) ∨
      ∃ x k K, l = .run u ∧ s.tasks[u]? = some (.handler x) ∧ x.stage = .viewing k o ∧
        x.request = z.request ∧ s.handles[k]? = some K ∧ K.holder = none ∧ v = K.view := by
  rcases m.handler_origin hz with hold | hapart | ⟨y, k, K, e, hu, hk, acts, -, hnew⟩
  · exact .inl hold
  · rcases hapart with at_ | at_ | ⟨r, at_, bare, -⟩ | ⟨at_, -⟩
    · simp [at_] at hstage
    · simp [at_] at hstage
    · exact absurd (Stage.answered.inj (at_.symm.trans hstage)) (bare o v)
    · simp [at_] at hstage
  · obtain ⟨hl, free, x, rfl, hx, hreq, hv⟩ := acts.shown hnew hstage
    exact .inr ⟨x, k, K, hl, hu, hx, hreq, hk, free, hv⟩

theorem Move.shown (m : Move env s l s') {u : Nat} {z : Handler} {o : Occasion} {v : View}
    (hz : s'.tasks[u]? = some (.handler z)) (hstage : z.stage = .answered (.view o v)) :
    s.tasks[u]? = some (.handler z) ∨
      ∃ x k K, s.tasks[u]? = some (.handler x) ∧ x.stage = .viewing k o ∧
        x.request = z.request ∧ s.handles[k]? = some K ∧ v = K.view := by
  rcases m.built hz hstage with hold | ⟨x, k, K, -, hx, at_, hreq, hk, -, hv⟩
  · exact .inl hold
  · exact .inr ⟨x, k, K, hx, at_, hreq, hk, hv⟩

/-! ## What a cancelling leaves behind -/

/-- A handler that is about to show the session it has been asked to give up, has cancelled its
token. -/
theorem Acts.gaveUp (acts : Acts env s t h l y H e) (hfits : y.Fits t H) {z : Handler} {k : Nat}
    {o : Occasion} {id : Uuid} (hz : e.task = .handler z) (hstage : z.stage = .viewing k o)
    (asks : z.request = .cancel id) :
    k = h ∧ e.handle.session.stage = .idle ∧ e.handle.progress = 0 ∧
      e.handle.token ∈ e.cancelled := by
  cases acts with
  | @disarm x H id' at_ asks' =>
    obtain rfl := Task.handler.inj hz
    obtain ⟨-, hidle⟩ := hfits.at_stage at_
    rw [if_neg (by simp [asks', Request.isSubmit])] at hidle
    exact ⟨(Stage.viewing.inj hstage).1.symm, hidle, rfl, List.mem_singleton_self _⟩
  | @worked x H w at_ =>
    -- Only a request for a sheet waits for a worker.
    obtain rfl := Task.handler.inj hz
    obtain ⟨_, _, hrequest⟩ := hfits.at_stage at_
    simp [show x.request = _ from asks] at hrequest
  | @look x H at_ asks' =>
    obtain rfl := Task.handler.inj hz
    simp [asks'] at asks
  | @restart x H id' at_ asks' =>
    obtain rfl := Task.handler.inj hz
    simp [asks'] at asks
  | @launch x H d id' organization caller given token table at_ asks' =>
    obtain rfl := Task.handler.inj hz
    simp [asks'] at asks
  | @edit x H d mapping at_ asks' =>
    obtain rfl := Task.handler.inj hz
    rcases asks' with ⟨_, _, asks'⟩ | ⟨_, _, _, asks'⟩ <;> simp [asks'] at asks
  | read | advance | abandon | record => cases hz
  | queue | order | unlist | refuse | enter | giveUp | arm | armFetching | fetched | fetchFailed
  | takeBack | present | remove | release =>
    obtain rfl := Task.handler.inj hz
    cases hstage

/-- The cancellings that are about to be answered, or have been answered with a view, have
settled the session. -/
structure Confirmed (s : State) : Prop where
  viewing : ∀ {u k : Nat} {z : Handler} {o : Occasion} {id : Uuid},
    s.tasks[u]? = some (.handler z) → z.request = .cancel id → z.stage = .viewing k o → Settled k s
  answered : ∀ {u : Nat} {z : Handler} {o : Occasion} {v : View} {id : Uuid},
    s.tasks[u]? = some (.handler z) → z.request = .cancel id → z.stage = .answered (.view o v) →
    v.Blank ∧ ∃ k K, s.handles[k]? = some K ∧ K.id = id ∧ Settled k s

theorem Confirmed.move (hs : Sound s) (hc : Confirmed s) (m : Move env s l s') : Confirmed s' := by
  refine ⟨?viewing, ?answered⟩
  case viewing =>
    intro u k z o id hz asks hstage
    rcases m.handler_origin hz with hold | hapart | ⟨y, h, H, e, hu, hh, acts, rfl, hnew⟩
    · exact ((hc.viewing hold asks hstage).move hs m).1
    · rcases hapart with at_ | at_ | ⟨r, at_, -⟩ | ⟨-, hnone⟩
      · simp [at_] at hstage
      · simp [at_] at hstage
      · simp [at_] at hstage
      · simp [asks, Request.id?] at hnone
    · obtain ⟨rfl, hidle, hzero, htoken⟩ := acts.gaveUp (hs.found hu hh acts) hnew hstage asks
      exact ⟨_, handle_apply_self _ hh, hidle, hzero, List.mem_append_left _ htoken⟩
  case answered =>
    intro u z o v id hz asks hstage
    rcases m.shown hz hstage with hold | ⟨x, k, K, hx, hxstage, hreq, hk, rfl⟩
    · obtain ⟨hblank, k, K, hk, hid, hset⟩ := hc.answered hold asks hstage
      obtain ⟨K', hk', hid'⟩ := m.id_kept hk
      exact ⟨hblank, k, K', hk', hid'.trans hid, (hset.move hs m).1⟩
    · -- The session has been settled when the handler came to show it.
      have hset := hc.viewing hx (hreq.trans asks) hxstage
      have hfits := hs.fits hx (by simp [Task.place, Stage.place, hxstage]) hk
      have hid : K.id = id := hfits.1 id (by simp [hreq, asks, Request.id?])
      obtain ⟨K', hk', hid'⟩ := m.id_kept hk
      refine ⟨?_, k, K', hk', hid'.trans hid, (hset.move hs m).1⟩
      obtain ⟨L, hl, idle, zero, -⟩ := hset
      obtain rfl : K = L := Option.some.inj (hk.symm.trans hl)
      exact blank_view idle zero

theorem Reachable.confirmed (hr : Reachable env s) : Confirmed s :=
  hr.keeps (fun firstId wall => by constructor <;> simp [State.start]) fun hs hc m => hc.move hs m

/-! ## Ever after -/

/-- What has become of a session that was settled in the state `s₀`, where it is known by an
identifier. -/
structure Aftermath (s₀ : State) (k : Nat) (id : Uuid) (s : State) : Prop where
  numbered : Numbered s
  known : ∃ K, s.handles[k]? = some K ∧ K.id = id
  settled : Settled k s
  calls : s.callsOf k = s₀.callsOf k
  /-- The views that have been shown meanwhile are blank. -/
  views : ∀ {u : Nat} {z : Handler} {o : Occasion} {v : View},
    s.tasks[u]? = some (.handler z) → z.stage = .answered (.view o v) → v.id = id →
    s₀.tasks[u]? = some (.handler z) ∨ v.Blank

theorem Aftermath.move {s₀ : State} {k : Nat} {id : Uuid} (hs : Sound s)
    (ha : Aftermath s₀ k id s) (m : Move env s l s') : Aftermath s₀ k id s' := by
  obtain ⟨hn, ⟨K, hk, hid⟩, hset, hcalls, hviews⟩ := ha
  obtain ⟨hset', hcalls'⟩ := hset.move hs m
  obtain ⟨K', hk', hid'⟩ := m.id_kept hk
  refine ⟨hn.move m, ⟨K', hk', hid'.trans hid⟩, hset', hcalls'.trans hcalls, ?_⟩
  intro u z o v hz hstage hv
  rcases m.shown hz hstage with hold | ⟨x, j, J, -, -, -, hj, rfl⟩
  · exact hviews hold hstage hv
  · -- The session that is shown has the identifier of the settled one, so it is that one.
    obtain ⟨L, hl, idle, zero, -⟩ := hset
    obtain rfl : j = k := hn.eq_of_id hj hk (hid ▸ hv)
    obtain rfl : J = L := Option.some.inj (hj.symm.trans hl)
    exact .inr (blank_view idle zero)

/-- Whether a handler has answered the cancelling of a session with success. -/
def Handler.hasCancelled (id : Uuid) : Handler → Bool
  | ⟨.cancel id', _, .answered (.view _ _)⟩ => id' == id
  | _ => false

theorem Handler.cancelled_of {id : Uuid} {x : Handler} (hx : x.hasCancelled id = true) :
    x.request = .cancel id ∧ ∃ o v, x.stage = .answered (.view o v) := by
  unfold Handler.hasCancelled at hx
  split at hx
  · exact ⟨congrArg Request.cancel (eq_of_beq hx), _, _, rfl⟩
  · cases hx

/-- Once a cancelling has been answered with success, no call is made for the session, and
neither its state nor any view of it shows anything but an import that has not begun, whatever
happens. -/
theorem cancel_is_final (hr : Reachable env s) {u : Nat} {x : Handler} {id : Uuid} {o : Occasion}
    {v : View} (task : s.tasks[u]? = some (.handler x)) (asks : x.request = .cancel id)
    (success : x.stage = .answered (.view o v)) (labels : List Label) :
    v.Blank ∧ ∃ h H, (s.after env labels).handles[h]? = some H ∧ H.id = id ∧ H.view.Blank ∧
      (s.after env labels).callsOf h = s.callsOf h ∧
      ∀ (u' : Nat) (z : Handler) (o' : Occasion) (w : View),
        (s.after env labels).tasks[u']? = some (.handler z) →
        z.stage = .answered (.view o' w) → w.id = id →
        s.tasks[u']? = some (.handler z) ∨ w.Blank := by
  obtain ⟨hblank, h, H, hh, hid, hset⟩ := hr.confirmed.answered task asks success
  refine ⟨hblank, h, ?_⟩
  have hstart : Aftermath s h id s :=
    ⟨hr.numbered, ⟨H, hh, hid⟩, hset, rfl, fun hz _ _ => .inl hz⟩
  obtain ⟨-, -, ⟨K, hk, hid'⟩, ⟨L, hl, idle, zero, -⟩, hcalls, hviews⟩ :=
    hr.sound.keeps env hstart (fun hs ha m => ha.move hs m) labels
  obtain rfl : K = L := Option.some.inj (hk.symm.trans hl)
  exact ⟨K, hk, hid', blank_view idle zero, hcalls, fun u' z o' w => hviews⟩

/-- A batch is given up between its two rows. -/
theorem cancel_is_final_between_rows :
    let cancelled : List Label := Sample.submit (some []) ++
      [.run 1, .run 1, .run 2, .arrive (.cancel ⟨0⟩), .run 3, .run 3, .run 3, .run 3]
    let later : List Label := [.pass 5 5, .run 2, .run 2, .arrive (.get ⟨0⟩), .run 4, .run 4]
    ((Sample.after none cancelled).callsOf 0).length = 1 ∧
      ∃ (h : Nat) (H : Handle),
        (Sample.after none (cancelled ++ later)).handles[h]? = some H ∧ H.id = ⟨0⟩ ∧
        H.view.Blank := by
  intro cancelled later
  refine ⟨by decide +kernel, ?_⟩
  obtain ⟨x, htask, hx⟩ := handler_of_any (s := Sample.after none cancelled) (t := 3)
    (p := Handler.hasCancelled ⟨0⟩) (by decide +kernel)
  obtain ⟨hasks, o, v, hstage⟩ := Handler.cancelled_of hx
  obtain ⟨-, h, H, hh, hid, hblank, -⟩ :=
    cancel_is_final ⟨0, 0, cancelled, rfl⟩ htask hasks hstage later
  refine ⟨h, H, ?_, hid, hblank⟩
  rw [Sample.after, after_append]
  exact hh

end

end SheetIntake.Service
