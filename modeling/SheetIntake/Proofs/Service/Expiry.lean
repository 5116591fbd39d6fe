import SheetIntake.Proofs.Service.Numbers
import SheetIntake.Service.Schedule

/-! # Only idle sessions expire

    A sweep reads the time of the last use off every session.  What that time has to do with the
    requests that have come is said by `LastUsed`, which looks at nothing but the steps of a run:
    a session is used when it is put into the store and whenever a request finds it there.
    `handle_step` says what one step does to the time that a session keeps and to its place in the
    store, and so the time is that of the last use after any run (`lastUsed_iff`).

    A sweep takes away the sessions that have not been used for long enough, provided that they are
    neither submitting nor locked, and no others (`only_idle_go`).  The clock is read in numbers of
    64 bits, and a time that a session may be idle is cut to the longest of them; as long as the
    clock has not got there, this makes no difference (`isExpired_iff`). -/

namespace SheetIntake.Service

/-! ## Using a session -/

/-- The session that a request looks up when it arrives.  Deleting a session is no use of it, and a
submission without an organization comes to nothing before. -/
def Request.lookedUp : Request → Option Uuid
  | .get id | .chooseSheet id _ | .replaceMapping id _ | .assign id .. | .cancel id
  | .reset id => some id
  | .submit id organization .. => if Text.isBlank organization then none else some id
  | .health | .fields _ | .upload .. | .delete _ => none

/-- A handler that has not yet done anything starts with its request. -/
def State.Receives (s : State) (l : Label) (request : Request) : Prop :=
  ∃ t x, l = .run t ∧ s.tasks[t]? = some (.handler x) ∧ x.stage = .arrived ∧ x.request = request

/-- A step puts a session into the store, or looks it up there. -/
def State.Uses (env : Surroundings) (s : State) (l : Label) (k : Nat) : Prop :=
  (s.handles[k]? = none ∧ (step env s l).handles[k]?.isSome) ∨
    ∃ request id, s.Receives l request ∧ request.lookedUp = some id ∧ s.find? id = some k

/-- A step takes a session out of the store because a request asks for it. -/
def State.Deletes (s : State) (l : Label) (k : Nat) : Prop :=
  ∃ id, s.Receives l (.delete id) ∧ s.find? id = some k

/-! ## One step -/

/-- What becomes of the sessions when a request arrives. -/
inductive ArrivalEffect (s : State) (request : Request) : List Handle → Prop where
  | nothing (lost : ∀ id, request.lookedUp = some id → s.find? id = none) :
      ArrivalEffect s request s.handles
  | created (H : Handle) (now : H.lastSeen = s.wall) (listed : H.listed = true)
      (brought : request.lookedUp = none) : ArrivalEffect s request (s.handles ++ [H])
  | used {id : Uuid} {k : Nat} (asks : request.lookedUp = some id) (found : s.find? id = some k) :
      ArrivalEffect s request (s.handles.modify k fun H => { H with lastSeen := s.wall })
  | deleted {id : Uuid} {k : Nat} (asks : request = .delete id) (found : s.find? id = some k) :
      ArrivalEffect s request (s.handles.modify k fun H => { H with listed := false })

section step
variable {env : Surroundings} {s : State} {t k : Nat} {x : Handler}

theorem ArrivalEffect.untouched {request : Request} (asks : request.lookedUp = none) :
    ArrivalEffect s request s.handles := .nothing (by simp [asks])

theorem arrivalEffect_lookUp {id : Uuid} (asks : x.request.lookedUp = some id)
    {next : Nat → State → State} (hnext : ∀ h s, (next h s).handles = s.handles) :
    ArrivalEffect s x.request (Turn.lookUp ⟨t, x⟩ s id next).handles := by
  unfold Turn.lookUp
  split
  · rename_i k hfound
    rw [hnext]
    exact .used asks hfound
  · rename_i hlost
    exact .nothing fun id' hid' => by
      obtain rfl : id = id' := Option.some.inj (asks.symm.trans hid')
      exact hlost

theorem arrivalEffect_arrive : ArrivalEffect s x.request (Turn.arrive ⟨t, x⟩ s).handles := by
  cases hr : x.request with
  | health =>
    simp only [Turn.arrive, hr]
    exact .untouched rfl
  | fields mode =>
    simp only [Turn.arrive, hr]
    split <;> exact .untouched rfl
  | upload mode fileName content =>
    simp only [Turn.arrive, hr, Turn.upload]
    split
    · exact .untouched rfl
    · split
      · exact .untouched rfl
      · split
        · exact .untouched rfl
        · exact .created _ rfl rfl rfl
  | delete id =>
    simp only [Turn.arrive, hr, Turn.delete]
    split
    · rename_i k hfound
      exact .deleted rfl hfound
    · exact .untouched rfl
  | submit id organization token table =>
    simp only [Turn.arrive, hr]
    split
    · rename_i hblank
      exact .untouched (if_pos hblank)
    · rename_i hfull
      exact hr ▸ arrivalEffect_lookUp (by simp [hr, Request.lookedUp, hfull]) fun _ _ => rfl
  | get id | chooseSheet id _ | replaceMapping id _ | assign id _ _ | cancel id | reset id =>
    simp only [Turn.arrive, hr]
    exact hr ▸ arrivalEffect_lookUp (by rw [hr]; rfl) fun _ _ => rfl

end step

/-- What a step makes of session `k`, which is `K'` afterwards. -/
inductive HandleStep (env : Surroundings) (s : State) (l : Label) (k : Nat) (K' : Handle) :
    Prop where
  | used (uses : s.Uses env l k) (now : K'.lastSeen = s.wall) (listed : K'.listed = true)
  | kept (unused : ¬ s.Uses env l k) {K : Handle} (before : s.handles[k]? = some K)
      (same : K'.lastSeen = K.lastSeen) (stays : K'.listed = K.listed)
  | deleted (unused : ¬ s.Uses env l k) {K : Handle} (before : s.handles[k]? = some K)
      (same : K'.lastSeen = K.lastSeen) (gone : K'.listed = false) (deletes : s.Deletes l k)
  | swept (unused : ¬ s.Uses env l k) {K : Handle} (before : s.handles[k]? = some K)
      (same : K'.lastSeen = K.lastSeen) {maxIdle : Nat} (sweeps : l = .sweep maxIdle)
      (stays : K'.listed = (K.listed && !K.isExpired s.wall maxIdle))

section step
variable {env : Surroundings} {s s' : State} {l : Label} {t h k : Nat} {y : Task} {H K' : Handle}
  {e : Effect}

/-- A task that does not start with a request neither uses a session nor deletes one. -/
theorem Acts.stays (acts : Acts env s t h l y H e)
    (under_way : l = .run t → ∀ x, y = .handler x → x.stage ≠ .arrived) :
    e.handle.lastSeen = H.lastSeen ∧ e.handle.listed = H.listed := by
  cases acts with
  | look at_ | queue at_ | order at_ | unlist at_ => exact absurd at_ (under_way rfl _ rfl)
  | _ => exact ⟨rfl, rfl⟩

theorem State.Receives.unique {request request' : Request} (h : s.Receives l request)
    (h' : s.Receives l request') : request = request' := by
  obtain ⟨t, x, rfl, ht, -, rfl⟩ := h
  obtain ⟨t', x', hl, ht', -, rfl⟩ := h'
  obtain rfl := Label.run.inj hl
  obtain rfl := Task.handler.inj (Option.some.inj (ht.symm.trans ht'))
  rfl

/-- A session that is there already is used by nobody but who looks it up. -/
theorem not_uses {K : Handle} (before : s.handles[k]? = some K)
    (lost : ∀ request id, s.Receives l request → request.lookedUp = some id →
      s.find? id ≠ some k) : ¬ s.Uses env l k := by
  rintro (⟨hnone, -⟩ | ⟨request, id, received, asks, found⟩)
  · simp [before] at hnone
  · exact lost request id received asks found

/-- When no request arrives, the store changes by a sweep only. -/
theorem Move.handleStep (m : Move env s l s') (quiet : ∀ request, ¬ s.Receives l request)
    (hk : s'.handles[k]? = some K') : HandleStep env s l k K' := by
  have hunused : ∀ {K : Handle}, s.handles[k]? = some K → ¬ s.Uses env l k := fun before =>
    not_uses before fun request _ received => absurd received (quiet request)
  cases m with
  | stay | arrive | decline | leave | pass => exact .kept (hunused hk) hk rfl rfl
  | @create t x mode fileName content session task at_ asks =>
    exact absurd ⟨t, x, rfl, task, at_, rfl⟩ (quiet x.request)
  | @act l t h y H e task handle acts =>
    rcases handle_apply_cases hk handle with ⟨rfl, rfl⟩ | ⟨-, hold⟩
    · obtain ⟨hseen, hlisted⟩ := acts.stays fun hl x hx at_ =>
        quiet x.request ⟨t, x, hl, hx ▸ task, at_, rfl⟩
      exact .kept (hunused handle) handle hseen hlisted
    · exact .kept (hunused hold) hold rfl rfl
  | sweep maxIdle =>
    obtain ⟨K, hK, rfl⟩ := handle_sweep hk
    exact .swept (hunused hK) hK rfl rfl rfl

/-- When a request arrives, it concerns one session at most. -/
theorem handleStep_receives {request : Request} (received : s.Receives l request)
    (hk : (step env s l).handles[k]? = some K') : HandleStep env s l k K' := by
  have heffect : ArrivalEffect s request (step env s l).handles := by
    obtain ⟨t, x, rfl, ht, hx, rfl⟩ := received
    simp only [step, ht, Turn.step, hx]
    exact arrivalEffect_arrive
  have hunused : ∀ {K : Handle}, s.handles[k]? = some K →
      (∀ id, request.lookedUp = some id → s.find? id ≠ some k) → ¬ s.Uses env l k := by
    intro K before lost
    refine not_uses before fun request' id received' asks => lost id ?_
    rw [received.unique received', asks]
  have hafter : (step env s l).handles[k]?.isSome := by rw [hk]; rfl
  generalize (step env s l).handles = handles at heffect hk
  cases heffect with
  | nothing lost => exact .kept (hunused hk fun id asks => by simp [lost id asks]) hk rfl rfl
  | created H now listed brought =>
    rcases getElem?_concat_cases hk with hold | ⟨rfl, rfl⟩
    · exact .kept (hunused hold fun id asks => by simp [brought] at asks) hold rfl rfl
    · exact .used (.inl ⟨List.getElem?_eq_none (Nat.le_refl _), hafter⟩) now listed
  | @used id j asks found =>
    rw [List.getElem?_modify] at hk
    obtain ⟨K, hK, rfl⟩ := Option.map_eq_some_iff.1 hk
    by_cases hj : j = k
    · subst hj
      obtain ⟨H, hH, hlisted, -⟩ := handle_of_find? found
      obtain rfl : K = H := Option.some.inj (hK.symm.trans hH)
      exact .used (.inr ⟨request, id, received, asks, found⟩) (by simp) (by simpa using hlisted)
    · refine .kept (hunused hK fun id' asks' => ?_) hK (by simp [hj]) (by simp [hj])
      obtain rfl : id = id' := Option.some.inj (asks.symm.trans asks')
      simpa [found] using hj
  | @deleted id j asks found =>
    have hlost : ∀ id', request.lookedUp = some id' → s.find? id' ≠ some k := by
      simp [asks, Request.lookedUp]
    rw [List.getElem?_modify] at hk
    obtain ⟨K, hK, rfl⟩ := Option.map_eq_some_iff.1 hk
    by_cases hj : j = k
    · subst hj
      exact .deleted (hunused hK hlost) hK (by simp) (by simp) ⟨id, asks ▸ received, found⟩
    · exact .kept (hunused hK hlost) hK (by simp [hj]) (by simp [hj])

theorem handle_step (hs : s.InRange) (hk : (step env s l).handles[k]? = some K') :
    HandleStep env s l k K' := by
  by_cases hreceived : ∃ request, s.Receives l request
  · obtain ⟨request, received⟩ := hreceived
    exact handleStep_receives received hk
  · exact (move_step env hs l).handleStep (not_exists.1 hreceived) hk

end step

/-! ## The last use -/

/-- In a run from `s₀` session `k` has been used at the time `τ`, and not again since. -/
inductive LastUsed (env : Surroundings) (s₀ : State) (k τ : Nat) : List Label → Prop where
  | now {labels : List Label} {l : Label} (uses : (s₀.after env labels).Uses env l k)
      (at_ : (s₀.after env labels).wall = τ) : LastUsed env s₀ k τ (labels ++ [l])
  | before {labels : List Label} {l : Label} (used : LastUsed env s₀ k τ labels)
      (unused : ¬ (s₀.after env labels).Uses env l k) : LastUsed env s₀ k τ (labels ++ [l])

section
variable {env : Surroundings} {firstId wall k τ : Nat} {labels : List Label} {H : Handle}

theorem sound_after (env : Surroundings) (firstId wall : Nat) (labels : List Label) :
    Sound ((State.start firstId wall).after env labels) :=
  Reachable.sound ⟨firstId, wall, labels, rfl⟩

/-- Every session in the store has been used at the time that it keeps. -/
theorem lastUsed_lastSeen
    (hk : ((State.start firstId wall).after env labels).handles[k]? = some H) :
    LastUsed env (State.start firstId wall) k H.lastSeen labels := by
  induction labels using List.reverseRecOn generalizing H with
  | nil => simp [State.start] at hk
  | append_singleton labels l ih =>
    rw [after_concat] at hk
    cases handle_step (sound_after env firstId wall labels).inRange hk with
    | used uses now => exact .now uses now.symm
    | kept unused before same | deleted unused before same | swept unused before same =>
      exact .before (same ▸ ih before) unused

theorem LastUsed.eq_lastSeen (h : LastUsed env (State.start firstId wall) k τ labels)
    (hk : ((State.start firstId wall).after env labels).handles[k]? = some H) :
    τ = H.lastSeen := by
  induction h generalizing H with
  | @now labels l uses at_ =>
    rw [after_concat] at hk
    cases handle_step (sound_after env firstId wall labels).inRange hk with
    | used _ now => exact at_.symm.trans now.symm
    | kept unused | deleted unused | swept unused => exact absurd uses unused
  | @before labels l used unused ih =>
    rw [after_concat] at hk
    cases handle_step (sound_after env firstId wall labels).inRange hk with
    | used uses => exact absurd uses unused
    | kept _ before same | deleted _ before same | swept _ before same =>
      exact (ih before).trans same.symm

/-- The time that a session keeps is that of its last use. -/
theorem lastUsed_iff (hk : ((State.start firstId wall).after env labels).handles[k]? = some H) :
    LastUsed env (State.start firstId wall) k τ labels ↔ τ = H.lastSeen :=
  ⟨fun h => h.eq_lastSeen hk, fun h => h ▸ lastUsed_lastSeen hk⟩

end

/-! ## The sweep -/

section sweep
variable {wall maxIdle : Nat} {H : Handle}

/-- A difference of two times fits into the numbers they are counted in, so the cutoff is exact. -/
theorem cutoff_exact (clock : wall < longestIdle) (maxIdle : Nat) :
    cutoff wall maxIdle = (wall : Int) - (min maxIdle longestIdle : Nat) ∧
      Int64.minValue.toInt ≤ (wall : Int) - (min maxIdle longestIdle : Nat) ∧
      (wall : Int) - (min maxIdle longestIdle : Nat) ≤ Int64.maxValue.toInt := by
  have hlongest : longestIdle = 9223372036854775807 := rfl
  have hleast : Int64.minValue.toInt = -9223372036854775808 := rfl
  have hmost : Int64.maxValue.toInt = 9223372036854775807 := rfl
  have hlow : (-Int.pow 2 63) = -9223372036854775808 := rfl
  rw [cutoff, hlow, hleast, hmost]
  rw [hlongest] at clock ⊢
  omega

theorem isExpired_iff (clock : wall < longestIdle) :
    H.isExpired wall maxIdle = true ↔
      H.listed = true ∧ H.lastSeen + maxIdle ≤ wall ∧ H.session.status ≠ .submitting ∧
        H.holder = none := by
  have hcutoff : ((H.lastSeen : Int) ≤ cutoff wall maxIdle) ↔ H.lastSeen + maxIdle ≤ wall := by
    rw [(cutoff_exact clock maxIdle).1]
    -- With more than the longest time nothing is idle, for the clock has not run that long.
    omega
  simp only [Handle.isExpired, Handle.isBusy, Bool.and_eq_true, decide_eq_true_eq, hcutoff,
    Bool.not_eq_true', Bool.or_eq_false_iff, Option.isSome_eq_false_iff, Option.isNone_iff_eq_none,
    beq_eq_false_iff_ne]
  tauto

/-- Idle sessions that are neither submitting nor locked go, and the others stay as they are. -/
theorem handle_swept {s : State} {k : Nat} (clock : s.wall < longestIdle)
    (hk : s.handles[k]? = some H) (maxIdle : Nat) :
    (s.sweep maxIdle).handles[k]? = some
      (if H.lastSeen + maxIdle ≤ s.wall ∧ H.session.status ≠ .submitting ∧ H.holder = none
        then { H with listed := false } else H) := by
  have hswept : (s.sweep maxIdle).handles[k]? =
      some { H with listed := H.listed && !H.isExpired s.wall maxIdle } := by
    simp [State.sweep, hk]
  rw [hswept]
  cases hlisted : H.listed with
  | false =>
    have hsame : { H with listed := false } = H := by
      cases H
      cases hlisted
      rfl
    rw [Bool.false_and, hsame, ite_self]
  | true =>
    split
    · rename_i hidle
      simp [(isExpired_iff clock).2 ⟨hlisted, hidle⟩]
    · rename_i hidle
      have hkept : H.isExpired s.wall maxIdle = false := by
        rw [Bool.eq_false_iff]
        exact fun hexpired => hidle ((isExpired_iff clock).1 hexpired).2
      simp [hkept, ← hlisted]

/-- How many sessions have been in the store and are not any more. -/
def State.lost (s s' : State) : Nat :=
  (s.handles.zip s'.handles).countP fun p => p.1.listed && !p.2.listed

/-- Sweeping makes the store smaller by the number of sessions that go. -/
theorem active_sweep (s : State) (maxIdle : Nat) :
    s.active = (s.sweep maxIdle).active + s.lost (s.sweep maxIdle) := by
  simp only [State.active, State.lost, State.sweep]
  induction s.handles with
  | nil => rfl
  | cons H hs ih =>
    simp only [List.map_cons, List.zip_cons_cons, List.countP_cons]
    cases H.listed <;> cases H.isExpired s.wall maxIdle <;> simp [-List.countP_map] <;> omega

end sweep

/-! ## From a step on -/

section run
variable {env : Surroundings} {s : State} {k : Nat} {H : Handle}

theorem after_cons (l : Label) (labels : List Label) :
    s.after env (l :: labels) = (step env s l).after env labels := rfl

/-- Clocks do not go back. -/
theorem Move.wall_le {l : Label} {s' : State} (m : Move env s l s') : s.wall ≤ s'.wall := by
  cases m with
  | pass ms wallMs => exact Nat.le_add_right _ _
  | _ => exact Nat.le_refl _

theorem Sound.wall_le_after (hs : Sound s) (env : Surroundings) (labels : List Label) :
    s.wall ≤ (s.after env labels).wall :=
  (hs.keeps (I := fun s' => s.wall ≤ s'.wall) env (Nat.le_refl _)
    (fun _ hle m => Nat.le_trans hle m.wall_le) labels).2

theorem Sound.exists_of_uses (hs : Sound s) {l : Label} (uses : s.Uses env l k) :
    ∃ H, (step env s l).handles[k]? = some H := by
  rcases uses with ⟨-, hsome⟩ | ⟨request, id, -, -, found⟩
  · exact Option.isSome_iff_exists.1 hsome
  · obtain ⟨H, hk, -⟩ := handle_of_find? found
    obtain ⟨H', hk', -⟩ := (move_step env hs.inRange l).id_kept hk
    exact ⟨H', hk'⟩

/-- From `s` on nobody deletes session `k`, and every sweep comes before it has been idle for as
long as that sweep allows, counted from the time `τ`. -/
def State.Spares (env : Surroundings) (k τ : Nat) : State → List Label → Prop
  | _, [] => True
  | s, l :: labels =>
    ¬ s.Deletes l k ∧ (∀ maxIdle, l = .sweep maxIdle → s.wall < τ + maxIdle) ∧
      Spares env k τ (step env s l) labels

/-- A session that is spared from its last use on stays in the store. -/
theorem Sound.listed_of_spares (hs : Sound s) {τ : Nat} {labels : List Label}
    (clock : (s.after env labels).wall < longestIdle) (hk : s.handles[k]? = some H)
    (listed : H.listed = true) (seen : τ ≤ H.lastSeen) (now : τ ≤ s.wall)
    (spares : State.Spares env k τ s labels) :
    ∃ H', (s.after env labels).handles[k]? = some H' ∧ H'.listed = true := by
  induction labels generalizing s H with
  | nil => exact ⟨H, hk, listed⟩
  | cons l labels ih =>
    obtain ⟨hdeletes, hsweep, hlater⟩ := spares
    rw [after_cons] at clock ⊢
    have hmove := move_step env hs.inRange l
    obtain ⟨H', hk', -⟩ := hmove.id_kept hk
    have hnow : τ ≤ (step env s l).wall := Nat.le_trans now hmove.wall_le
    have hlater' := (hs.move hmove).wall_le_after env labels
    have hclock : s.wall < longestIdle :=
      Nat.lt_of_le_of_lt (Nat.le_trans hmove.wall_le hlater') clock
    cases handle_step hs.inRange hk' with
    | used uses hseen hlisted =>
      exact ih (hs.move hmove) clock hk' hlisted (hseen ▸ now) hnow hlater
    | kept unused before same stays =>
      obtain rfl := Option.some.inj (hk.symm.trans before)
      exact ih (hs.move hmove) clock hk' (stays.trans listed) (same ▸ seen) hnow hlater
    | deleted unused before same gone deletes => exact absurd deletes hdeletes
    | @swept _ _ before same maxIdle sweeps stays =>
      obtain rfl := Option.some.inj (hk.symm.trans before)
      have hkept : H.isExpired s.wall maxIdle = false := by
        rw [Bool.eq_false_iff]
        intro hexpired
        have hidle := ((isExpired_iff hclock).1 hexpired).2.1
        have hearly := hsweep maxIdle sweeps
        omega
      refine ih (hs.move hmove) clock hk' ?_ (same ▸ seen) hnow hlater
      rw [stays, hkept, listed]
      rfl

/-- Nothing is put back into the store. -/
theorem Move.stays_unlisted {l : Label} {s' : State} (m : Move env s l s') (hs : Sound s)
    {H' : Handle} (hk : s.handles[k]? = some H) (hk' : s'.handles[k]? = some H')
    (unlisted : H.listed = false) : H'.listed = false := by
  rcases m.same_or_acted hk hk' with ⟨hlisted, -⟩ | ⟨t, y, e, ht, acts, -, rfl⟩
  · rw [Bool.eq_false_iff]
    exact fun hback => by simp [hlisted hback] at unlisted
  · exact (acts.frame (hs.found ht hk acts)).unlisted unlisted

/-- A session that is out of the store is never found again. -/
theorem Reachable.find?_of_unlisted (hr : Reachable env s) (hk : s.handles[k]? = some H)
    (unlisted : H.listed = false) (later : List Label) :
    (s.after env later).find? H.id = none := by
  have hkeeps := hr.sound.keeps
    (I := fun s' => Numbered s' ∧
      ∃ H', s'.handles[k]? = some H' ∧ H'.id = H.id ∧ H'.listed = false)
    env ⟨hr.numbered, H, hk, rfl, unlisted⟩ (fun hs ⟨hn, K, hK, hid, hout⟩ m => by
      obtain ⟨K', hK', hid'⟩ := m.id_kept hK
      exact ⟨hn.move m, K', hK', hid'.trans hid, m.stays_unlisted hs hK hK' hout⟩) later
  obtain ⟨-, hn, H', hk', hid, hunlisted⟩ := hkeeps
  cases hfound : (s.after env later).find? H.id with
  | none => rfl
  | some j =>
    -- It would be the session itself, for no other has its identifier.
    obtain ⟨J, hj, hlisted, hjd⟩ := handle_of_find? hfound
    obtain rfl := hn.eq_of_id hj hk' (hjd.trans hid.symm)
    obtain rfl : J = H' := Option.some.inj (hj.symm.trans hk')
    simp [hlisted] at hunlisted

end run

/-! ## Runs -/

/-- What a sweep does to the store after a run from `s₀`, and what becomes of sessions before and
after it. -/
structure OnlyIdleGo (env : Surroundings) (s₀ : State) (labels : List Label) (maxIdle : Nat) :
    Prop where
  /-- Every session has been used last at some time. -/
  used : ∀ (k : Nat) (H : Handle), (s₀.after env labels).handles[k]? = some H →
    ∃ τ, LastUsed env s₀ k τ labels
  /-- A session goes if its last use is long enough ago and it is neither submitting nor locked;
  else it is the same as before. -/
  swept : ∀ (k : Nat) (H : Handle) (τ : Nat), (s₀.after env labels).handles[k]? = some H →
    LastUsed env s₀ k τ labels →
    (s₀.after env (labels ++ [.sweep maxIdle])).handles[k]? = some
      (if τ + maxIdle ≤ (s₀.after env labels).wall ∧ H.session.status ≠ .submitting ∧
          H.holder = none
        then { H with listed := false } else H)
  /-- Nothing else changes. -/
  rest : ∃ handles, s₀.after env (labels ++ [.sweep maxIdle]) =
      { s₀.after env labels with handles } ∧
    handles.length = (s₀.after env labels).handles.length
  /-- The number that the sweep reports is that of the sessions that go. -/
  counted : ∀ c : Schedule, c.state = s₀.after env labels →
    (c.sweep env maxIdle).2 =
      (s₀.after env labels).lost (s₀.after env (labels ++ [.sweep maxIdle]))
  /-- A session that has been used and then spared is still in the store. -/
  spared : ∀ (earlier later : List Label) (l : Label) (k : Nat), labels = earlier ++ l :: later →
    (s₀.after env earlier).Uses env l k →
    State.Spares env k (s₀.after env earlier).wall (s₀.after env (earlier ++ [l])) later →
    ∃ H, (s₀.after env labels).handles[k]? = some H ∧ H.listed = true
  submitting : ∀ (k : Nat) (H : Handle), (s₀.after env labels).handles[k]? = some H →
    H.session.status = .submitting →
    (s₀.after env (labels ++ [.sweep maxIdle])).handles[k]? = some H
  /-- A session that has gone, now or before, is never found again. -/
  gone : ∀ (k : Nat) (H : Handle),
    (s₀.after env (labels ++ [.sweep maxIdle])).handles[k]? = some H → H.listed = false →
    ∀ later : List Label,
      ((s₀.after env (labels ++ [.sweep maxIdle])).after env later).find? H.id = none
  /-- The cutoff is a difference of two times that fits into 64 bits. -/
  bounded : cutoff (s₀.after env labels).wall maxIdle =
      ((s₀.after env labels).wall : Int) - (min maxIdle longestIdle : Nat) ∧
    Int64.minValue.toInt ≤
      ((s₀.after env labels).wall : Int) - (min maxIdle longestIdle : Nat) ∧
    ((s₀.after env labels).wall : Int) - (min maxIdle longestIdle : Nat) ≤ Int64.maxValue.toInt

/-- Expiry takes the idle sessions out of the store and nothing else, whatever happens before and
after a sweep and however long a session may be idle. -/
theorem only_idle_go (env : Surroundings) (firstId wall : Nat) (labels : List Label) (maxIdle : Nat)
    (clock : ((State.start firstId wall).after env labels).wall < longestIdle) :
    OnlyIdleGo env (State.start firstId wall) labels maxIdle where
  used k H hk := ⟨H.lastSeen, lastUsed_lastSeen hk⟩
  swept k H τ hk hused := by
    rw [after_concat, hused.eq_lastSeen hk]
    exact handle_swept clock hk maxIdle
  rest := by
    rw [after_concat]
    exact ⟨_, rfl, List.length_map _⟩
  counted c hc := by
    rw [after_concat, ← hc]
    have hactive := active_sweep c.state maxIdle
    show c.state.active - (c.state.sweep maxIdle).active = c.state.lost (c.state.sweep maxIdle)
    omega
  spared earlier later l k hlabels huses hspares := by
    subst hlabels
    have hs := sound_after env firstId wall earlier
    have hmove := move_step env hs.inRange l
    rw [after_concat] at hspares
    rw [after_append, after_cons] at clock ⊢
    obtain ⟨H, hk⟩ := hs.exists_of_uses huses
    cases handle_step hs.inRange hk with
    | used _ now listed =>
      exact (hs.move hmove).listed_of_spares clock hk listed (Nat.le_of_eq now.symm) hmove.wall_le
        hspares
    | kept unused | deleted unused | swept unused => exact absurd huses unused
  submitting k H hk hsubmitting := by
    rw [after_concat]
    exact (handle_swept clock hk maxIdle).trans (by simp [hsubmitting])
  gone _ _ hk hlisted later :=
    Reachable.find?_of_unlisted ⟨firstId, wall, labels ++ [.sweep maxIdle], rfl⟩ hk hlisted later
  bounded := cutoff_exact clock maxIdle

/-- A session is put into the store at the time 0 and looked up at the time 5; then it is 12. -/
def Sample.lookedUp : List Label :=
  Sample.upload ++ [.pass 5 5, .arrive (.get ⟨0⟩), .run 1, .pass 7 7]

/-- It goes after 7 milliseconds without use, and not if 8 are allowed, or more than there are. -/
theorem looked_up_and_swept :
    (Sample.after none Sample.lookedUp).wall < longestIdle ∧
      OnlyIdleGo (Sample.surroundings none) (State.start 0 0) Sample.lookedUp 7 ∧
      LastUsed (Sample.surroundings none) (State.start 0 0) 0 5 Sample.lookedUp ∧
      (Sample.after none (Sample.lookedUp ++ [.sweep 7])).find? ⟨0⟩ = none ∧
      (Sample.after none (Sample.lookedUp ++ [.sweep 8])).find? ⟨0⟩ = some 0 ∧
      (Sample.after none (Sample.lookedUp ++ [.sweep (longestIdle + 1)])).find? ⟨0⟩ = some 0 := by
  have hclock : (Sample.after none Sample.lookedUp).wall < longestIdle := by decide +kernel
  have hgo := only_idle_go (Sample.surroundings none) 0 0 Sample.lookedUp 7 hclock
  have hseen : (Sample.after none Sample.lookedUp).handles[0]?.map Handle.lastSeen = some 5 := by
    decide +kernel
  obtain ⟨H, hk, hfive⟩ := Option.map_eq_some_iff.1 hseen
  exact ⟨hclock, hgo, hfive ▸ lastUsed_lastSeen hk, by decide +kernel, by decide +kernel,
    by decide +kernel⟩

end SheetIntake.Service
