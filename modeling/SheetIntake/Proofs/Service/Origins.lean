import SheetIntake.Proofs.Service.Ledger

/-! # Where a submission comes from

    A batch does not remember the request that has started it.  Here the two are brought
    together: a session that is submitting holds the draft that was reviewed when a
    handler has begun the submission (`Begun`), and the lookup table is the one that came
    with the request, or the answer to a fetch made for it (`Supplied`). -/

namespace SheetIntake

/-! ## What is submitted -/

/-- The draft of the session has been submitted and is so still. -/
def Session.Submits (s : Session) (d : Draft) : Prop :=
  s.stage = .submitting d ∨ ∃ m, s.stage = .completed d m

namespace Service

/-- A lookup table has been given with a request, or fetched for a scope and a mode. -/
def Supplied (env : Surroundings) (s : State) (scope : Backend.Scope) (mode : Mode)
    (given : Option (List LookupEntry)) (table : List LookupEntry) : Prop :=
  given = some table ∨
    (given = none ∧ ∃ k : Nat, s.fetches[k]? = some { scope, mode } ∧
      (env.tables k).answer = .ok table)

section
variable {env : Surroundings} {s s' : State} {l : Label} {t h : Nat} {y : Task} {H : Handle}
  {e : Effect}

/-! ## Modes and fetches -/

/-- The mode of a session never changes. -/
theorem Acts.mode (acts : Acts env s t h l y H e) :
    e.handle.session.mode = H.session.mode := by
  cases acts with
  | takeBack =>
    rcases H.session.abort_cases with ⟨d, -, hopen⟩ | ⟨-, hsame⟩
    · simp [hopen]
    · simp [hsame]
  | @read w H =>
    rcases H.session.chooseSheet_cases w.sheet with hsame | ⟨-, d, hread⟩ | ⟨-, hread⟩
    · simp [hsame]
    · simp [hread]
    · simp [hread]
  | @record b H summary =>
    rcases H.session.complete_cases summary with ⟨d, -, hdone⟩ | ⟨-, hsame⟩
    · simp [hdone]
    · simp [hsame]
  | _ => rfl

theorem Move.mode_kept (m : Move env s l s') {k : Nat} {K K' : Handle}
    (hk : s.handles[k]? = some K) (hk' : s'.handles[k]? = some K') :
    K'.session.mode = K.session.mode := by
  rcases m.same_or_acted hk hk' with ⟨-, hsame⟩ | ⟨t, y, e, -, acts, -, rfl⟩
  · rw [hsame]
  · exact acts.mode

theorem Move.fetch_kept (m : Move env s l s') {k : Nat} {f : Fetch}
    (hf : s.fetches[k]? = some f) : s'.fetches[k]? = some f := by
  cases m with
  | act =>
    obtain ⟨hlt, -⟩ := List.getElem?_eq_some_iff.1 hf
    exact (List.getElem?_append_left hlt).trans hf
  | _ => exact hf

theorem Supplied.move {scope : Backend.Scope} {mode : Mode} {given : Option (List LookupEntry)}
    {table : List LookupEntry} (hsup : Supplied env s scope mode given table)
    (m : Move env s l s') : Supplied env s' scope mode given table := by
  rcases hsup with hgiven | ⟨hnone, k, hk, hanswer⟩
  · exact .inl hgiven
  · exact .inr ⟨hnone, k, m.fetch_kept hk, hanswer⟩

/-! ## Where lookup tables come from -/

/-- The handler has its lookup table, or what it waits for, from where it says; the mode is that of
its session. -/
def Handler.Sourced (env : Surroundings) (s : State) (mode : Mode) (x : Handler) : Prop :=
  match x.stage, x.request with
  | .building _ _ table, .submit _ organization caller given =>
    Supplied env s (Turn.scope organization caller) mode given table
  | .fetching _ _ _ answer, .submit _ organization caller given =>
    given = none ∧ ∃ k : Nat,
      s.fetches[k]? = some { scope := Turn.scope organization caller, mode } ∧
      (env.tables k).answer = answer
  | _, _ => True

theorem Handler.Sourced.move {mode : Mode} {x : Handler} (hx : x.Sourced env s mode)
    (m : Move env s l s') : x.Sourced env s' mode := by
  unfold Handler.Sourced at hx ⊢
  split
  · rename_i hstage hrequest
    rw [hstage, hrequest] at hx
    exact Supplied.move hx m
  · rename_i hstage hrequest
    rw [hstage, hrequest] at hx
    obtain ⟨hnone, k, hfetch, hanswer⟩ := hx
    exact ⟨hnone, k, m.fetch_kept hfetch, hanswer⟩
  · trivial

/-- All handlers that carry submissions have their lookup tables from where they say. -/
def Sourced (env : Surroundings) (s : State) : Prop :=
  ∀ (t h : Nat) (x : Handler) (H : Handle), s.tasks[t]? = some (.handler x) →
    x.carries = some h → s.handles[h]? = some H → x.Sourced env s H.session.mode

theorem Acts.sourced (acts : Acts env s t h l y H e)
    (hy : ∀ x, y = .handler x → x.carries = some h → x.Sourced env s H.session.mode)
    (m : Move env s l (s.apply t h e)) {z : Handler} (hz : e.task = .handler z) :
    z.Sourced env (s.apply t h e) e.handle.session.mode := by
  cases acts with
  | arm at_ asks =>
    obtain rfl := Task.handler.inj hz
    simp [Handler.Sourced, asks, Supplied]
  | armFetching at_ asks =>
    -- The fetch is the latest in the books.
    obtain rfl := Task.handler.inj hz
    simp only [Handler.Sourced, asks, true_and]
    exact ⟨s.fetches.length, by simp [State.apply], rfl⟩
  | @fetched x H token due table at_ =>
    obtain rfl := Task.handler.inj hz
    have hx := hy x rfl (Handler.carries_fetching at_)
    cases hr : x.request with
    | submit id organization caller given =>
      simp only [Handler.Sourced, at_, hr] at hx ⊢
      exact Supplied.move (.inr hx) m
    | _ => simp [Handler.Sourced]
  | read | advance | abandon | record => cases hz
  | _ =>
    obtain rfl := Task.handler.inj hz
    simp [Handler.Sourced]

theorem Sourced.move (hs : Sound s) (hsrc : Sourced env s) (m : Move env s l s') :
    Sourced env s' := by
  intro u k z K hz hc hk
  rcases m.carrier hz hc with hold | ⟨t, y, H, e, ht, hh, acts, rfl, ⟨-, hnew⟩ | hnew⟩
  · -- The handler stays where it is, and so does the mode of its session.
    obtain ⟨L, hl⟩ := hs.inRange _ _ _ hold (place_of_carries hc)
    rw [m.mode_kept hl hk]
    exact (hsrc u k z L hold hc hl).move m
  · rw [handle_apply_self e hh] at hk
    obtain rfl := Option.some.inj hk
    refine acts.sourced (fun x hx hcx => ?_) m hnew.symm
    subst hx
    exact hsrc t k x H ht hcx hh
  · exact absurd hnew acts.not_handler

/-- In every state that is reached, lookup tables come from where they should. -/
theorem Reachable.sourced (hr : Reachable env s) : Sourced env s :=
  hr.keeps (fun firstId wall => by simp [Sourced, State.start]) fun hs hsrc m => hsrc.move hs m

/-! ## Submissions and their summaries -/

/-- Only the batch of a session records its summary. -/
theorem Acts.completes (acts : Acts env s t h l y H e) {d : Draft} {m : Summary}
    (hd : e.handle.session.stage = .completed d m) :
    H.session.stage = .completed d m ∨ ∃ b, H.session.stage = .submitting d ∧ y = .submission b ∧
      b.handle = h ∧ b.run.verdict = some (.ok m) ∧
      e.task = .submission { b with finished := true } := by
  cases acts with
  | edit | restart | enter | giveUp => simp at hd
  | takeBack =>
    rcases H.session.abort_cases with ⟨d', -, hopen⟩ | ⟨-, hsame⟩
    · simp [hopen] at hd
    · exact .inl (hsame ▸ hd)
  | @read w H =>
    rcases H.session.chooseSheet_cases w.sheet with hsame | ⟨-, d', hread⟩ | ⟨-, hread⟩
    · exact .inl (hsame ▸ hd)
    · simp [hread] at hd
    · simp [hread] at hd
  | @record b H summary of unfinished ended =>
    rcases H.session.complete_cases summary with ⟨d', hd', hdone⟩ | ⟨-, hsame⟩
    · obtain ⟨rfl, rfl⟩ : d' = d ∧ summary = m := by simpa [hdone] using hd
      exact .inr ⟨b, hd', rfl, of, ended, rfl⟩
    · exact .inl (hsame ▸ hd)
  | look | queue | order | unlist | refuse | arm | armFetching | disarm | fetched | fetchFailed
  | launch | worked | present | remove | advance | abandon | release =>
    exact .inl hd

/-- A session that is submitted has been submitted before, or has just come out of a review. -/
theorem Acts.submits_back (acts : Acts env s t h l y H e) {d : Draft}
    (hd : e.handle.session.Submits d) :
    H.session.Submits d ∨
      ∃ x id organization caller given, y = .handler x ∧ x.stage = .atLock h ∧
        x.request = .submit id organization caller given ∧ H.session.stage = .review d ∧
        l = .run t ∧ e.task = x.to (.inside h) ∧ d.problems = [] := by
  rcases hd with hsubmitting | ⟨m, hcompleted⟩
  · exact (acts.submitting_back hsubmitting).imp_left .inl
  · rcases acts.completes hcompleted with hbefore | ⟨b, hsubmitting, -⟩
    · exact .inl (.inr ⟨m, hbefore⟩)
    · exact .inl (.inl hsubmitting)

theorem Move.submits_back (m : Move env s l s') {k : Nat} {K K' : Handle}
    (hk : s.handles[k]? = some K) (late : K.session.isLate = true)
    (hk' : s'.handles[k]? = some K') {d : Draft} (hd : K'.session.Submits d) :
    K.session.Submits d := by
  rcases m.same_or_acted hk hk' with ⟨-, hsame⟩ | ⟨t, y, e, -, acts, -, rfl⟩
  · rwa [hsame] at hd
  · rcases acts.submits_back hd with hd' | ⟨x, _, _, _, _, -, -, -, reviewed, -⟩
    · exact hd'
    · simp [Session.isLate, reviewed] at late

/-- A completed session has a batch that has ended with its summary. -/
def Concluded (s : State) : Prop :=
  ∀ (h : Nat) (H : Handle) (d : Draft) (m : Summary), s.handles[h]? = some H →
    H.session.stage = .completed d m →
    ∃ (t : Nat) (b : Submission), s.tasks[t]? = some (.submission b) ∧ b.handle = h ∧
      b.run.verdict = some (.ok m)

theorem Concluded.move (hc : Concluded s) (m : Move env s l s') : Concluded s' := by
  intro k K d summary hk hd
  have hkept : ∀ H, s.handles[k]? = some H → H.session.stage = .completed d summary →
      ∃ (t : Nat) (b : Submission), s'.tasks[t]? = some (.submission b) ∧ b.handle = k ∧
        b.run.verdict = some (.ok summary) := by
    intro H hh hcompleted
    obtain ⟨t, b, hb, hbh, hv⟩ := hc k H d summary hh hcompleted
    obtain ⟨b', hb', hbh', hrun⟩ := m.batch_kept hb
    exact ⟨t, b', hb', hbh'.trans hbh, by rw [hrun (by simp [hv]), hv]⟩
  rcases m.origin hk with ⟨H, hh, -, hsame⟩ | ⟨-, hearly⟩ | ⟨t, y, H, e, ht, hh, acts, rfl, rfl⟩
  · rw [hsame] at hd
    exact hkept H hh hd
  · simp [Session.isLate, hd] at hearly
  · rcases acts.completes hd with hcompleted | ⟨b, -, rfl, rfl, hv, htask⟩
    · exact hkept H hh hcompleted
    · exact ⟨t, { b with finished := true }, htask ▸ task_apply_self e ht, rfl, hv⟩

theorem Reachable.concluded (hr : Reachable env s) : Concluded s :=
  hr.keeps (fun firstId wall => by simp [Concluded, State.start]) fun _ hc m => hc.move m

end

end Service

end SheetIntake
