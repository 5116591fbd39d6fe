import Mathlib.Data.List.Basic
import SheetIntake.Proofs.Session.Outcomes
import SheetIntake.Service.Step

/-! # The moves of the service

    `step` is written as a program.  Here it is taken apart once and for all, so that no
    later proof needs to open it: `move_step` says that every step is one of the moves
    below.

    Nearly all moves have one form.  One task goes on, and what it does concerns itself
    and one session; all other tasks and sessions stay as they are.  `Effect` holds the
    new task, the new session and what is added to the books of the service, and `Acts`
    lists the effects that a task can have on a session, with all that it has checked. -/

namespace SheetIntake.Service

/-! ## What tasks are about -/

/-- The session that a request is about. -/
def Request.id? : Request → Option Uuid
  | .get id | .delete id | .chooseSheet id _ | .replaceMapping id _ | .assign id .. | .submit id ..
  | .cancel id | .reset id => some id
  | .health | .fields _ | .upload .. => none

/-- The session that a handler is busy with, by its place in the list of handles. -/
def Stage.place : Stage → Option Nat
  | .atLock h | .inside h | .fetching h .. | .aborting h _ | .building h .. | .working h _
  | .viewing h _ | .unlisted h => some h
  | .arrived | .answered _ | .dropped => none

/-- The session that a task is busy with. -/
def Task.place : Task → Option Nat
  | .handler x => x.stage.place
  | .worker w => some w.handle
  | .submission b => some b.handle

/-- The handler once it stands somewhere else. -/
def Handler.to (x : Handler) (stage : Stage) : Task := .handler { x with stage }

/-- All sessions that tasks are busy with exist. -/
def State.InRange (s : State) : Prop :=
  ∀ (t : Nat) (y : Task) (h : Nat), s.tasks[t]? = some y → y.place = some h →
    ∃ H, s.handles[h]? = some H

/-! ## Effects -/

/-- What a task does in one step: what becomes of itself and of the session that it is about,
and what is added to the books of the service. -/
structure Effect where
  task : Task
  handle : Handle
  spawned : List Task := []
  /-- The number of tokens handed out. -/
  minted : Nat := 0
  cancelled : List Nat := []
  calls : List Call := []
  fetches : List Fetch := []

/-- The state after task `t` has had an effect on session `h`. -/
def State.apply (s : State) (t h : Nat) (e : Effect) : State :=
  { s with
    handles := s.handles.set h e.handle
    tasks := s.tasks.set t e.task ++ e.spawned
    tokens := s.tokens + e.minted
    cancelled := e.cancelled ++ s.cancelled
    calls := s.calls ++ e.calls
    fetches := s.fetches ++ e.fetches }

/-- The calls that have been made for a session, in order. -/
def State.callsOf (s : State) (h : Nat) : List Call := s.calls.filter fun c => c.handle == h

section apply
variable {s : State} {t h k u : Nat} {y : Task} {H : Handle} (e : Effect)

@[simp] theorem length_handles_apply : (s.apply t h e).handles.length = s.handles.length :=
  List.length_set

theorem handle_apply_self (hh : s.handles[h]? = some H) :
    (s.apply t h e).handles[h]? = some e.handle := by
  obtain ⟨hlt, -⟩ := List.getElem?_eq_some_iff.1 hh
  exact List.getElem?_set_self hlt

theorem handle_apply_ne (hne : k ≠ h) : (s.apply t h e).handles[k]? = s.handles[k]? :=
  List.getElem?_set_ne hne.symm

theorem task_apply_self (ht : s.tasks[t]? = some y) :
    (s.apply t h e).tasks[t]? = some e.task := by
  obtain ⟨hlt, -⟩ := List.getElem?_eq_some_iff.1 ht
  rw [State.apply, List.getElem?_append_left (by simpa using hlt)]
  exact List.getElem?_set_self hlt

/-- Other tasks stay as they are. -/
theorem task_apply_ne (hne : u ≠ t) (hu : s.tasks[u]? = some y) :
    (s.apply t h e).tasks[u]? = some y := by
  obtain ⟨hlt, -⟩ := List.getElem?_eq_some_iff.1 hu
  rw [State.apply, List.getElem?_append_left (by simpa using hlt), List.getElem?_set_ne hne.symm]
  exact hu

/-- Where a task comes from: it has acted, it stays as it was, or it has been spawned. -/
theorem task_apply_cases (hu : (s.apply t h e).tasks[u]? = some y) :
    (u = t ∧ y = e.task) ∨ (u ≠ t ∧ s.tasks[u]? = some y) ∨
      (s.tasks.length ≤ u ∧ e.spawned[u - s.tasks.length]? = some y) := by
  rw [State.apply, List.getElem?_append] at hu
  split at hu
  · rw [List.getElem?_set] at hu
    split at hu
    · rename_i htu
      split at hu
      · exact .inl ⟨htu.symm, (Option.some.inj hu).symm⟩
      · cases hu
    · rename_i htu
      exact .inr (.inl ⟨fun h => htu h.symm, hu⟩)
  · rename_i hlt
    rw [List.length_set] at hlt hu
    exact .inr (.inr ⟨Nat.not_lt.1 hlt, hu⟩)

end apply

/-! ## What a task can do -/

/-- `Acts env s t h l y H e` holds when task `t`, which is `y`, can have the effect `e` on session
`h`, which is `H`, in a step that carries the label `l`. -/
inductive Acts (env : Surroundings) (s : State) (t h : Nat) :
    Label → Task → Handle → Effect → Prop where
  /-- The session has been looked up and is going to be shown. -/
  | look {x : Handler} {H : Handle} (at_ : x.stage = .arrived) (asks : x.request = .get H.id)
      (listed : H.listed = true) :
      Acts env s t h (.run t) (.handler x) H
        { task := x.to (.viewing h .shown), handle := { H with lastSeen := s.wall } }
  /-- The session has been looked up, and its lock is waited for. -/
  | queue {x : Handler} {H : Handle} (at_ : x.stage = .arrived)
      (asks : x.request.id? = some H.id) (listed : H.listed = true) :
      Acts env s t h (.run t) (.handler x) H
        { task := x.to (.atLock h), handle := { H with lastSeen := s.wall } }
  /-- The session has been looked up, and a worker is going to read a sheet of it. -/
  | order {x : Handler} {H : Handle} {number : Nat} (at_ : x.stage = .arrived)
      (asks : x.request = .chooseSheet H.id number) (listed : H.listed = true) :
      Acts env s t h (.run t) (.handler x) H
        { task := x.to (.working h s.tasks.length)
          handle := { H with lastSeen := s.wall }
          spawned := [.worker { handle := h, sheet := number, result := none }] }
  | unlist {x : Handler} {H : Handle} (at_ : x.stage = .arrived) (asks : x.request = .delete H.id)
      (listed : H.listed = true) :
      Acts env s t h (.run t) (.handler x) H
        { task := x.to (.unlisted h), handle := { H with listed := false } }
  /-- The session does not allow what is asked for. -/
  | refuse {x : Handler} {H : Handle} {e : ServiceError}
      (at_ : x.stage = .atLock h ∨ (∃ w, x.stage = .working h w) ∨
        ∃ token table, x.stage = .building h token table ∧ ∀ d, H.session.stage ≠ .submitting d) :
      Acts env s t h (.run t) (.handler x) H { task := x.to (.answered (.refused e)), handle := H }
  | edit {x : Handler} {H : Handle} {d : Draft} {mapping : Mapping} (at_ : x.stage = .atLock h)
      (asks : (∃ id m, x.request = .replaceMapping id m) ∨
        ∃ id header target, x.request = .assign id header target)
      (free : H.holder = none) (reviewed : H.session.stage = .review d) :
      Acts env s t h (.run t) (.handler x) H
        { task := x.to (.viewing h .shown)
          handle :=
            { H with session :=
                { H.session with stage := .review (d.remapped H.session.mode mapping) } } }
  | restart {x : Handler} {H : Handle} {id : Uuid} (at_ : x.stage = .atLock h)
      (asks : x.request = .reset id) (free : H.holder = none) (late : H.session.isLate = true)
      (unsubmitted : ∀ d, H.session.stage ≠ .submitting d) :
      Acts env s t h (.run t) (.handler x) H
        { task := x.to (.viewing h .shown)
          handle := { H with session := Session.new H.session.mode, progress := 0 } }
  /-- A submission begins.  The lock is kept, for the token is not yet armed. -/
  | enter {x : Handler} {H : Handle} {d : Draft} {id : Uuid} {organization : String}
      {caller : Option String} {given : Option (List LookupEntry)} (at_ : x.stage = .atLock h)
      (asks : x.request = .submit id organization caller given) (free : H.holder = none)
      (reviewed : H.session.stage = .review d) (complete : d.problems = []) :
      Acts env s t h (.run t) (.handler x) H
        { task := x.to (.inside h)
          handle :=
            { H with
              session := { H.session with stage := .submitting d }
              progress := 0
              holder := some t } }
  /-- The session is given up.  The lock is kept, for the token is not yet cancelled. -/
  | giveUp {x : Handler} {H : Handle} {id : Uuid} (at_ : x.stage = .atLock h)
      (asks : x.request = .cancel id) (free : H.holder = none) :
      Acts env s t h (.run t) (.handler x) H
        { task := x.to (.inside h)
          handle := { H with session := Session.new H.session.mode, holder := some t } }
  /-- The token of a submission is armed, which has its lookup table already. -/
  | arm {x : Handler} {H : Handle} {id : Uuid} {organization : String} {caller : Option String}
      {table : List LookupEntry} (at_ : x.stage = .inside h)
      (asks : x.request = .submit id organization caller (some table)) :
      Acts env s t h (.run t) (.handler x) H
        { task := x.to (.building h s.tokens table)
          handle := { H with token := s.tokens, holder := none }
          minted := 1 }
  /-- The token of a submission is armed, and the lookup table is asked for. -/
  | armFetching {x : Handler} {H : Handle} {id : Uuid} {organization : String}
      {caller : Option String} (at_ : x.stage = .inside h)
      (asks : x.request = .submit id organization caller none) :
      Acts env s t h (.run t) (.handler x) H
        { task := x.to (.fetching h s.tokens
            ((env.tables s.fetches.length).delay.map (s.clock + ·))
            (env.tables s.fetches.length).answer)
          handle := { H with token := s.tokens, holder := none }
          minted := 1
          fetches := [{ scope := Turn.scope organization caller, mode := H.session.mode }] }
  | disarm {x : Handler} {H : Handle} {id : Uuid} (at_ : x.stage = .inside h)
      (asks : x.request = .cancel id) :
      Acts env s t h (.run t) (.handler x) H
        { task := x.to (.viewing h .shown)
          handle := { H with progress := 0, holder := none }
          cancelled := [H.token] }
  | fetched {x : Handler} {H : Handle} {token : Nat} {due : Option Nat} {table : List LookupEntry}
      (at_ : x.stage = .fetching h token due (.ok table)) :
      Acts env s t h (.run t) (.handler x) H { task := x.to (.building h token table), handle := H }
  | fetchFailed {x : Handler} {H : Handle} {token : Nat} {due : Option Nat} {e : RecordError}
      (at_ : x.stage = .fetching h token due (.error e)) :
      Acts env s t h (.run t) (.handler x) H { task := x.to (.aborting h e), handle := H }
  | takeBack {x : Handler} {H : Handle} {e : RecordError} (at_ : x.stage = .aborting h e)
      (free : H.holder = none) :
      Acts env s t h (.run t) (.handler x) H
        { task := x.to (.answered (.refused (.backend e)))
          handle := { H with session := H.session.abort.1 } }
  /-- The payloads are built, and the batch starts in the background. -/
  | launch {x : Handler} {H : Handle} {d : Draft} {id : Uuid} {organization : String}
      {caller : Option String} {given : Option (List LookupEntry)} {token : Nat}
      {table : List LookupEntry} (at_ : x.stage = .building h token table)
      (asks : x.request = .submit id organization caller given) (free : H.holder = none)
      (submitted : H.session.stage = .submitting d) :
      Acts env s t h (.run t) (.handler x) H
        { task := x.to (.viewing h .accepted)
          handle := H
          spawned := [.submission
            { handle := h
              token
              scope := Turn.scope organization caller
              run := Batch.Run.start
                (Payload.ofRows H.session.mode d.table.rows d.mapping table)
              finished := false }] }
  /-- The worker is done. -/
  | worked {x : Handler} {H : Handle} {w : Nat} (at_ : x.stage = .working h w) :
      Acts env s t h (.run t) (.handler x) H { task := x.to (.viewing h .shown), handle := H }
  | present {x : Handler} {H : Handle} {o : Occasion} (at_ : x.stage = .viewing h o)
      (free : H.holder = none) :
      Acts env s t h (.run t) (.handler x) H
        { task := x.to (.answered (.view o H.view)), handle := H }
  | remove {x : Handler} {H : Handle} (at_ : x.stage = .unlisted h) :
      Acts env s t h (.run t) (.handler x) H
        { task := x.to (.answered .removed), handle := H, cancelled := [H.token] }
  | read {w : Worker} {H : Handle} {result : Except ImportError Status} (of : w.handle = h)
      (free : H.holder = none) :
      Acts env s t h (.run t) (.worker w) H
        { task := .worker { w with result := some result }
          handle := { H with session := (H.session.chooseSheet w.sheet).1 } }
  /-- The batch of a submission goes on. -/
  | advance {b : Submission} {H : Handle} {run : Batch.Run Payload} (of : b.handle = h)
      (unfinished : b.finished = false) (running : b.run.verdict = none)
      (polled : run = (b.run.poll env.policy env.backend.quiet s.clock
        { cancelled := s.isCancelled b.token, calls := s.calls.length, events := [] }).1) :
      Acts env s t h (.run t) (.submission b) H
        { task := .submission { b with run }
          handle :=
            { H with progress := H.progress + (run.results.length - b.run.results.length) }
          calls := newCalls b run }
  /-- A batch that has been cancelled leaves nothing to do. -/
  | abandon {b : Submission} {H : Handle} {e : ImportError} (of : b.handle = h)
      (unfinished : b.finished = false) (ended : b.run.verdict = some (.error e)) :
      Acts env s t h (.run t) (.submission b) H
        { task := .submission { b with finished := true }, handle := H }
  /-- The summary of a batch is recorded, if the session is still being submitted. -/
  | record {b : Submission} {H : Handle} {summary : Summary} (of : b.handle = h)
      (unfinished : b.finished = false) (ended : b.run.verdict = some (.ok summary))
      (free : H.holder = none) :
      Acts env s t h (.run t) (.submission b) H
        { task := .submission { b with finished := true }
          handle := { H with session := (H.session.complete summary).1 } }
  /-- The handler is given up behind the lock, which is free again. -/
  | release {x : Handler} {H : Handle} (at_ : x.stage = .inside h) :
      Acts env s t h (.drop t) (.handler x) H
        { task := x.to .dropped, handle := { H with holder := none } }

theorem handle_of_newCalls {b : Submission} {run : Batch.Run Payload} {c : Call}
    (hc : c ∈ newCalls b run) : c.handle = b.handle := by
  simp only [newCalls, List.mem_mapIdx] at hc
  obtain ⟨i, hi, rfl⟩ := hc
  rfl

section
variable {env : Surroundings} {s : State} {l : Label} {t h k : Nat} {y : Task} {H : Handle}
  {e : Effect}

theorem Acts.handle_of_calls (acts : Acts env s t h l y H e) {c : Call} (hc : c ∈ e.calls) :
    c.handle = h := by
  cases acts with
  | advance of => exact (handle_of_newCalls hc).trans of
  | _ => cases hc

theorem Acts.callsOf_self (acts : Acts env s t h l y H e) :
    (s.apply t h e).callsOf h = s.callsOf h ++ e.calls := by
  have hall : e.calls.filter (fun c => c.handle == h) = e.calls :=
    List.filter_eq_self.2 fun c hc => by simp [acts.handle_of_calls hc]
  simp only [State.callsOf, State.apply, List.filter_append, hall]

/-- No calls are made for other sessions. -/
theorem Acts.callsOf_ne (acts : Acts env s t h l y H e) (hne : k ≠ h) :
    (s.apply t h e).callsOf k = s.callsOf k := by
  have hnone : e.calls.filter (fun c => c.handle == k) = [] :=
    List.filter_eq_nil_iff.2 fun c hc => by
      rw [acts.handle_of_calls hc]
      simpa using hne.symm
  simp only [State.callsOf, State.apply, List.filter_append, hnone, List.append_nil]

end

/-! ## Moves -/

/-- A step of the service that carries a label, by what it does. -/
inductive Move (env : Surroundings) (s : State) : Label → State → Prop where
  /-- Nothing happens. -/
  | stay (l : Label) : Move env s l s
  | arrive (request : Request) :
      Move env s (.arrive request)
        (s.addTask (.handler { request, since := s.clock, stage := .arrived }))
  /-- A request is answered at once, without a session. -/
  | decline {t : Nat} {x : Handler} {r : Reply} (task : s.tasks[t]? = some (.handler x))
      (at_ : x.stage = .arrived) (bare : ∀ o v, r ≠ .view o v) (kept : r ≠ .removed) :
      Move env s (.run t) (s.setTask t (x.to (.answered r)))
  /-- An uploaded file has been read and gets a session. -/
  | create {t : Nat} {x : Handler} {mode : Mode} {fileName : String} {content : Content}
      {session : Session} (task : s.tasks[t]? = some (.handler x)) (at_ : x.stage = .arrived)
      (asks : x.request = .upload mode fileName content) (early : session.isLate = false) :
      Move env s (.run t)
        { s with
          handles := s.handles ++
            [{ id := ⟨s.nextId⟩, session, holder := none, progress := 0, token := s.tokens
               lastSeen := s.wall, listed := true }]
          tasks := s.tasks.set t (x.to (.viewing s.handles.length .created))
          tokens := s.tokens + 1
          nextId := s.nextId + 1 }
  | act {l : Label} {t h : Nat} {y : Task} {H : Handle} {e : Effect}
      (task : s.tasks[t]? = some y) (handle : s.handles[h]? = some H)
      (acts : Acts env s t h l y H e) : Move env s l (s.apply t h e)
  /-- A handler is given up that holds no lock. -/
  | leave {t : Nat} {x : Handler} (task : s.tasks[t]? = some (.handler x))
      (outside : ∀ h, x.stage ≠ .inside h) :
      Move env s (.drop t) (s.setTask t (x.to .dropped))
  | pass (ms wallMs : Nat) :
      Move env s (.pass ms wallMs) { s with clock := s.clock + ms, wall := s.wall + wallMs }
  | sweep (maxIdle : Nat) : Move env s (.sweep maxIdle) (s.sweep maxIdle)

/-! ## Every step is a move -/

section step
variable {env : Surroundings} {s : State} {t h : Nat} {x : Handler} {H : Handle}

theorem modify_eq_set (hh : s.handles[h]? = some H) (f : Handle → Handle) :
    s.handles.modify h f = s.handles.set h (f H) := by
  rw [List.modify_eq_set_getElem?, hh]
  rfl

theorem set_self (hh : s.handles[h]? = some H) : s.handles.set h H = s.handles := by
  obtain ⟨hlt, rfl⟩ := List.getElem?_eq_some_iff.1 hh
  exact List.set_getElem_self hlt

/-- Going somewhere else after a change of the session is an effect. -/
theorem goTo_onHandle (hh : s.handles[h]? = some H) (f : Handle → Handle) (stage : Stage) :
    Turn.goTo ⟨t, x⟩ (s.onHandle h f) stage =
      s.apply t h { task := x.to stage, handle := f H } := by
  simp [Turn.goTo, State.onHandle, State.setTask, State.apply, Handler.to, modify_eq_set hh]

theorem goTo_eq_apply (hh : s.handles[h]? = some H) (stage : Stage) :
    Turn.goTo ⟨t, x⟩ s stage = s.apply t h { task := x.to stage, handle := H } := by
  simp [Turn.goTo, State.setTask, State.apply, Handler.to, set_self hh]

theorem handle_of_find? {id : Uuid} (hfind : s.find? id = some h) :
    ∃ H, s.handles[h]? = some H ∧ H.listed = true ∧ H.id = id := by
  obtain ⟨hlt, htrue, -⟩ := List.findIdx?_eq_some_iff_getElem.1 hfind
  simp only [Bool.and_eq_true, beq_iff_eq] at htrue
  exact ⟨s.handles[h], List.getElem?_eq_getElem hlt, htrue⟩

theorem holder_of_isFree (hh : s.handles[h]? = some H) (hfree : s.isFree h = true) :
    H.holder = none := by
  simpa [State.isFree, hh] using hfree

/-! ### Handlers before their session -/

/-- A refusal before any session is known. -/
theorem move_refuse (ht : s.tasks[t]? = some (.handler x)) (hx : x.stage = .arrived)
    (e : ServiceError) : Move env s (.run t) (Turn.refuse ⟨t, x⟩ s e) :=
  .decline ht hx (by simp) (by simp)

theorem move_lookUp (ht : s.tasks[t]? = some (.handler x)) (hx : x.stage = .arrived) (id : Uuid)
    {next : Nat → State → State}
    (hnext : ∀ h H, s.handles[h]? = some H → H.listed = true → H.id = id →
      Move env s (.run t) (next h (s.onHandle h fun y => { y with lastSeen := s.wall }))) :
    Move env s (.run t) (Turn.lookUp ⟨t, x⟩ s id next) := by
  unfold Turn.lookUp
  split
  · rename_i h hfind
    obtain ⟨H, hh, hlisted, hid⟩ := handle_of_find? hfind
    exact hnext h H hh hlisted hid
  · exact move_refuse ht hx _

/-- Waiting for the lock of a session that has been looked up. -/
theorem move_queue (ht : s.tasks[t]? = some (.handler x)) (hx : x.stage = .arrived) {id : Uuid}
    (asks : x.request.id? = some id) :
    Move env s (.run t) (Turn.lookUp ⟨t, x⟩ s id fun h s => Turn.goTo ⟨t, x⟩ s (.atLock h)) := by
  refine move_lookUp ht hx id fun h H hh hlisted hid => ?_
  rw [goTo_onHandle hh]
  exact .act ht hh (.queue hx (hid ▸ asks) hlisted)

theorem move_upload (ht : s.tasks[t]? = some (.handler x)) (hx : x.stage = .arrived) {mode : Mode}
    {fileName : String} {content : Content} (asks : x.request = .upload mode fileName content) :
    Move env s (.run t) (Turn.upload ⟨t, x⟩ s mode fileName content) := by
  unfold Turn.upload
  split
  · exact move_refuse ht hx _
  · split
    · exact move_refuse ht hx _
    · split
      · exact move_refuse ht hx _
      · rename_i hdecode
        exact .create ht hx asks (Session.decode_eq_ok hdecode)

theorem move_delete (ht : s.tasks[t]? = some (.handler x)) (hx : x.stage = .arrived) {id : Uuid}
    (asks : x.request = .delete id) : Move env s (.run t) (Turn.delete ⟨t, x⟩ s id) := by
  unfold Turn.delete
  split
  · rename_i h hfind
    obtain ⟨H, hh, hlisted, rfl⟩ := handle_of_find? hfind
    rw [goTo_onHandle hh]
    exact .act ht hh (.unlist hx asks hlisted)
  · exact move_refuse ht hx _

theorem move_order (ht : s.tasks[t]? = some (.handler x)) (hx : x.stage = .arrived) {id : Uuid}
    {number : Nat} (asks : x.request = .chooseSheet id number) :
    Move env s (.run t) (Turn.lookUp ⟨t, x⟩ s id fun h s =>
      Turn.goTo ⟨t, x⟩ (s.addTask (.worker { handle := h, sheet := number, result := none }))
        (.working h s.tasks.length)) := by
  refine move_lookUp ht hx id fun h H hh hlisted hid => ?_
  -- The worker goes to the end of the tasks, so it does not matter which of the two comes first.
  obtain ⟨hlt, -⟩ := List.getElem?_eq_some_iff.1 ht
  have happly : Move env s _ _ := .act ht hh (.order hx (hid ▸ asks) hlisted)
  simpa [Turn.goTo, State.onHandle, State.setTask, State.addTask, State.apply, Handler.to,
    modify_eq_set hh, List.set_append_left _ _ hlt] using happly

theorem move_arrive (ht : s.tasks[t]? = some (.handler x)) (hx : x.stage = .arrived) :
    Move env s (.run t) (Turn.arrive ⟨t, x⟩ s) := by
  cases hr : x.request with
  | health =>
    simp only [Turn.arrive, hr]
    exact .decline ht hx (by simp) (by simp)
  | fields mode =>
    simp only [Turn.arrive, hr]
    split
    · exact .decline ht hx (by simp) (by simp)
    · exact move_refuse ht hx _
  | upload mode fileName content =>
    simp only [Turn.arrive, hr]
    exact move_upload ht hx hr
  | get id =>
    simp only [Turn.arrive, hr]
    refine move_lookUp ht hx id fun h H hh hlisted hid => ?_
    rw [goTo_onHandle hh]
    exact .act ht hh (.look hx (hid ▸ hr) hlisted)
  | delete id =>
    simp only [Turn.arrive, hr]
    exact move_delete ht hx hr
  | chooseSheet id number =>
    simp only [Turn.arrive, hr]
    exact move_order ht hx hr
  | submit id organization token table =>
    simp only [Turn.arrive, hr]
    split
    · exact move_refuse ht hx _
    · exact move_queue ht hx (by simp [hr, Request.id?])
  | replaceMapping id _ | assign id _ _ | cancel id | reset id =>
    -- These four wait for the lock, and differ only behind it.
    simp only [Turn.arrive, hr]
    exact move_queue ht hx (by simp [hr, Request.id?])

/-! ### Handlers at and behind the lock -/

/-- An action on the session under the lock: refused, or followed by what comes next. -/
theorem move_under (ht : s.tasks[t]? = some (.handler x)) (hx : x.stage = .atLock h)
    (hh : s.handles[h]? = some H) {α : Type} {action : Session → Session × Except ImportError α}
    {next : State → State}
    (hnext : ∀ session a, action H.session = (session, .ok a) →
      Move env s (.run t) (next (s.onHandle h fun y => { y with session }))) :
    Move env s (.run t) (Turn.act ⟨t, x⟩ s h action next) := by
  simp only [Turn.act, hh]
  split
  · simp only [Turn.refuseImport, Turn.refuse, Turn.answer, goTo_eq_apply hh]
    exact .act ht hh (.refuse (.inl hx))
  · rename_i session a haction
    exact hnext session a haction

theorem onHandle_onHandle (f g : Handle → Handle) :
    (s.onHandle h f).onHandle h g = s.onHandle h (g ∘ f) := by
  simp [State.onHandle, List.modify_modify_eq]

theorem move_underLock (ht : s.tasks[t]? = some (.handler x)) (hx : x.stage = .atLock h)
    (hh : s.handles[h]? = some H) (free : H.holder = none) :
    Move env s (.run t) (Turn.underLock ⟨t, x⟩ s h) := by
  cases hr : x.request with
  | replaceMapping id mapping =>
    simp only [Turn.underLock, hr]
    refine move_under ht hx hh fun session a ha => ?_
    obtain ⟨d, mapping, hd, rfl⟩ := Session.edit_eq_ok ha
    rw [goTo_onHandle hh]
    exact .act ht hh (.edit hx (.inl ⟨_, _, hr⟩) free hd)
  | assign id header target =>
    simp only [Turn.underLock, hr]
    refine move_under ht hx hh fun session a ha => ?_
    obtain ⟨d, mapping, hd, rfl⟩ := Session.edit_eq_ok ha
    rw [goTo_onHandle hh]
    exact .act ht hh (.edit hx (.inr ⟨_, _, _, hr⟩) free hd)
  | reset id =>
    simp only [Turn.underLock, hr]
    refine move_under ht hx hh fun session a ha => ?_
    obtain ⟨hlate, hsub, rfl⟩ := Session.reset_eq_ok ha
    simp only [onHandle_onHandle, goTo_onHandle hh]
    exact .act ht hh (.restart hx hr free hlate hsub)
  | submit id organization token table =>
    simp only [Turn.underLock, hr]
    refine move_under ht hx hh fun session a ha => ?_
    obtain ⟨d, hd, hcomplete, rfl⟩ := Session.begin_eq_ok ha
    simp only [onHandle_onHandle, goTo_onHandle hh]
    exact .act ht hh (.enter hx hr free hd hcomplete)
  | cancel id =>
    simp only [Turn.underLock, hr]
    refine move_under ht hx hh fun session a ha => ?_
    obtain rfl := Session.cancel_eq_ok ha
    simp only [onHandle_onHandle, goTo_onHandle hh]
    exact .act ht hh (.giveUp hx hr free)
  | health | fields _ | upload _ _ _ | get _ | delete _ | chooseSheet _ _ =>
    -- Nobody waits for the lock with such a request.
    simp only [Turn.underLock, hr]
    exact .stay _

theorem move_leaveLock (ht : s.tasks[t]? = some (.handler x)) (hx : x.stage = .inside h)
    (hh : s.handles[h]? = some H) : Move env s (.run t) (Turn.leaveLock ⟨t, x⟩ s h env) := by
  unfold Turn.leaveLock
  split
  · rename_i id organization caller table hr
    simp only [Turn.arm, hh]
    split
    · -- The table has come with the request.
      have happly : Move env s _ _ := .act ht hh (.arm hx hr)
      simpa [Turn.goTo, State.onHandle, State.setTask, State.apply, Handler.to,
        modify_eq_set hh] using happly
    · have happly : Move env s _ _ := .act ht hh (.armFetching hx hr)
      simpa [Turn.goTo, State.onHandle, State.setTask, State.apply, Handler.to,
        modify_eq_set hh] using happly
  · rename_i id hr
    simp only [Turn.disarm, hh]
    have happly : Move env s _ _ := .act ht hh (.disarm hx hr)
    simpa [Turn.goTo, State.cancelToken, State.onHandle, State.setTask, State.apply, Handler.to,
      modify_eq_set hh] using happly
  · exact .stay _

/-! ### Handlers behind their turn at the lock -/

theorem move_build (ht : s.tasks[t]? = some (.handler x)) {token : Nat} {table : List LookupEntry}
    (hx : x.stage = .building h token table) (hh : s.handles[h]? = some H)
    (free : H.holder = none) :
    Move env s (.run t) (Turn.build ⟨t, x⟩ s h token table) := by
  unfold Turn.build
  split
  · rename_i id organization caller given handle hr hh'
    obtain rfl : H = handle := Option.some.inj (hh.symm.trans hh')
    split
    · -- The session has been given up while the table was fetched.
      rename_i e hpayloads
      simp only [Turn.refuseImport, Turn.refuse, Turn.answer, goTo_eq_apply hh]
      exact .act ht hh (.refuse (.inr (.inr ⟨_, _, hx, Session.payloads_eq_error hpayloads⟩)))
    · rename_i payloads hpayloads
      obtain ⟨d, hd, rfl⟩ := Session.payloads_eq_ok hpayloads
      obtain ⟨hlt, -⟩ := List.getElem?_eq_some_iff.1 ht
      have happly : Move env s _ _ := .act ht hh (.launch hx hr free hd)
      simpa [Turn.goTo, State.setTask, State.addTask, State.apply, Handler.to, set_self hh,
        List.set_append_left _ _ hlt] using happly
  · exact .stay _

theorem move_working (ht : s.tasks[t]? = some (.handler x)) {w : Nat}
    (hx : x.stage = .working h w) (hh : s.handles[h]? = some H) :
    Move env s (.run t) (Turn.step ⟨t, x⟩ s env) := by
  simp only [Turn.step, hx]
  split
  · rw [goTo_eq_apply hh]
    exact .act ht hh (.worked hx)
  · simp only [Turn.refuseImport, Turn.refuse, Turn.answer, goTo_eq_apply hh]
    exact .act ht hh (.refuse (.inr (.inl ⟨w, hx⟩)))
  · exact .stay _

theorem move_handler (hs : s.InRange) (ht : s.tasks[t]? = some (.handler x)) :
    Move env s (.run t) (Turn.step ⟨t, x⟩ s env) := by
  -- A step looks its session up again, and always finds it.
  have hplace : ∀ h, x.stage.place = some h → ∃ H, s.handles[h]? = some H :=
    fun h hp => hs t _ h ht hp
  cases hx : x.stage with
  | arrived =>
    simp only [Turn.step, hx]
    exact move_arrive ht hx
  | atLock h =>
    obtain ⟨H, hh⟩ := hplace h (by simp [hx, Stage.place])
    simp only [Turn.step, hx]
    split
    · exact move_underLock ht hx hh (holder_of_isFree hh ‹_›)
    · exact .stay _
  | inside h =>
    obtain ⟨H, hh⟩ := hplace h (by simp [hx, Stage.place])
    simp only [Turn.step, hx]
    exact move_leaveLock ht hx hh
  | fetching h token due answer =>
    obtain ⟨H, hh⟩ := hplace h (by simp [hx, Stage.place])
    simp only [Turn.step, hx]
    split
    · cases answer with
      | ok table =>
        simp only [goTo_eq_apply hh]
        exact .act ht hh (.fetched hx)
      | error e =>
        simp only [goTo_eq_apply hh]
        exact .act ht hh (.fetchFailed hx)
    · exact .stay _
  | aborting h e =>
    obtain ⟨H, hh⟩ := hplace h (by simp [hx, Stage.place])
    simp only [Turn.step, hx]
    split
    · rename_i hfree
      simp only [Turn.abort, hh, Turn.refuse, Turn.answer, goTo_onHandle hh]
      exact .act ht hh (.takeBack hx (holder_of_isFree hh hfree))
    · exact .stay _
  | building h token table =>
    obtain ⟨H, hh⟩ := hplace h (by simp [hx, Stage.place])
    simp only [Turn.step, hx]
    split
    · exact move_build ht hx hh (holder_of_isFree hh ‹_›)
    · exact .stay _
  | working h w =>
    obtain ⟨H, hh⟩ := hplace h (by simp [hx, Stage.place])
    exact move_working ht hx hh
  | viewing h o =>
    obtain ⟨H, hh⟩ := hplace h (by simp [hx, Stage.place])
    simp only [Turn.step, hx, hh]
    split
    · rename_i hfree
      simp only [Turn.answer, goTo_eq_apply hh]
      exact .act ht hh (.present hx (holder_of_isFree hh hfree))
    · exact .stay _
  | unlisted h =>
    obtain ⟨H, hh⟩ := hplace h (by simp [hx, Stage.place])
    simp only [Turn.step, hx, hh]
    have happly : Move env s _ _ := .act ht hh (.remove hx)
    simpa [Turn.answer, Turn.goTo, State.cancelToken, State.setTask, State.apply, Handler.to,
      set_self hh] using happly
  | answered r =>
    simp only [Turn.step, hx]
    exact .stay _
  | dropped =>
    simp only [Turn.step, hx]
    exact .stay _

theorem move_drop (hs : s.InRange) (ht : s.tasks[t]? = some (.handler x)) :
    Move env s (.drop t) (Turn.drop ⟨t, x⟩ s) := by
  unfold Turn.drop
  split
  · exact .stay _
  · exact .stay _
  · -- Only behind the lock does a handler leave something to be set free.
    rename_i h hx
    obtain ⟨H, hh⟩ := hs t _ h ht (by simp [Task.place, show x.stage = _ from hx, Stage.place])
    rw [goTo_onHandle hh]
    exact .act ht hh (.release hx)
  · rename_i hanswered hdropped hinside
    exact .leave ht hinside

/-! ### Workers and submissions -/

theorem move_worker {w : Worker} (ht : s.tasks[t]? = some (.worker w)) :
    Move env s (.run t) (stepWorker s t w) := by
  unfold stepWorker
  split
  · rename_i H hresult hh
    split
    · rename_i hfree
      have happly : Move env s _ _ := .act ht hh
        (@Acts.read env s t w.handle w H (H.session.chooseSheet w.sheet).2 rfl
          (holder_of_isFree hh hfree))
      simpa [State.onHandle, State.setTask, State.apply, modify_eq_set hh] using happly
    · exact .stay _
  · exact .stay _

theorem move_submission (hs : s.InRange) {b : Submission}
    (ht : s.tasks[t]? = some (.submission b)) :
    Move env s (.run t) (stepSubmission env s t b) := by
  obtain ⟨H, hh⟩ := hs t _ b.handle ht rfl
  unfold stepSubmission
  split
  · exact .stay _
  · rename_i hfinished
    have unfinished : b.finished = false := by simpa using hfinished
    -- The batch still runs, has been cancelled, or waits to have its summary recorded.
    split
    · rename_i hverdict
      have happly : Move env s _ _ := .act ht hh (.advance rfl unfinished hverdict rfl)
      simpa [pollSubmission, State.onHandle, State.setTask, State.apply,
        modify_eq_set hh] using happly
    · rename_i e hverdict
      have happly : Move env s _ _ := .act ht hh (.abandon rfl unfinished hverdict)
      simpa [State.setTask, State.apply, set_self hh] using happly
    · rename_i summary hverdict
      split
      · rename_i hfree
        have happly : Move env s _ _ := .act ht hh
          (.record rfl unfinished hverdict (holder_of_isFree hh hfree))
        simpa [State.onHandle, State.setTask, State.apply, modify_eq_set hh] using happly
      · exact .stay _

/-- Every step is a move. -/
theorem move_step (env : Surroundings) (hs : s.InRange) (l : Label) :
    Move env s l (step env s l) := by
  cases l with
  | arrive request => exact .arrive request
  | run t =>
    simp only [step]
    split
    · exact move_handler hs ‹_›
    · exact move_worker ‹_›
    · exact move_submission hs ‹_›
    · exact .stay _
  | drop t =>
    simp only [step]
    split
    · exact move_drop hs ‹_›
    · exact .stay _
  | pass ms wallMs => exact .pass ms wallMs
  | sweep maxIdle => exact .sweep maxIdle

end step

end SheetIntake.Service
