import SheetIntake.Proofs.Service.Origins

/-! # Every row exactly once

    However often a session is submitted, given up or edited, no row of it is called
    twice; and when it is completed, every row has been called once, with the payload
    that belongs to the draft under which its submission has begun, and the summary
    accounts for every call (`completed_exactly_once`).

    `History` is the invariant.  It looks back over the labels of the run, for the draft
    that counts is the one that was in review when the submission began. -/

namespace SheetIntake.Service

/-- In the course of the labels a handler has begun to submit the session under a draft, which has
been submitted ever since. -/
def Begun (env : Surroundings) (s₀ : State) (labels : List Label) (h : Nat)
    (scope : Backend.Scope) (given : Option (List LookupEntry)) (d : Draft) : Prop :=
  ∃ (before : List Label) (t : Nat) (later : List Label) (x : Handler) (id : Uuid)
    (organization : String) (caller : Option String) (H : Handle),
    labels = before ++ .run t :: later ∧
    (s₀.after env before).tasks[t]? = some (.handler x) ∧ x.stage = .atLock h ∧
    x.request = .submit id organization caller given ∧ Turn.scope organization caller = scope ∧
    (s₀.after env before).handles[h]? = some H ∧ H.session.stage = .review d ∧
    ∀ mid, mid <+: later → ∃ K, (s₀.after env (before ++ .run t :: mid)).handles[h]? = some K ∧
      K.session.Submits d

/-- The payloads of all rows of a batch, called or not. -/
def Submission.payloads (s : State) (b : Submission) : List Payload :=
  (s.callsOf b.handle).map Call.payload ++ b.run.queue

/-- Whoever carries a submission does so on the request that has begun it. -/
structure History (env : Surroundings) (s₀ : State) (labels : List Label) : Prop where
  handlers : ∀ {t h : Nat} {x : Handler} {H : Handle} {d : Draft},
    (s₀.after env labels).tasks[t]? = some (.handler x) → x.carries = some h →
    (s₀.after env labels).handles[h]? = some H → H.session.stage = .submitting d →
    ∃ id organization caller given, x.request = .submit id organization caller given ∧
      Begun env s₀ labels h (Turn.scope organization caller) given d
  batches : ∀ {t : Nat} {b : Submission} {H : Handle} {d : Draft},
    (s₀.after env labels).tasks[t]? = some (.submission b) →
    (s₀.after env labels).handles[b.handle]? = some H → H.session.Submits d →
    ∃ given table, Begun env s₀ labels b.handle b.scope given d ∧
      Supplied env (s₀.after env labels) b.scope H.session.mode given table ∧
      b.payloads (s₀.after env labels) =
        Payload.ofRows H.session.mode d.table.rows d.mapping table

section
variable {env : Surroundings} {s₀ : State} {labels : List Label} {l : Label} {t h : Nat}

theorem Begun.concat {scope : Backend.Scope} {given : Option (List LookupEntry)} {d : Draft}
    (hb : Begun env s₀ labels h scope given d) {K : Handle}
    (hk : (s₀.after env (labels ++ [l])).handles[h]? = some K) (hd : K.session.Submits d) :
    Begun env s₀ (labels ++ [l]) h scope given d := by
  obtain ⟨before, t, later, x, id, organization, caller, H, rfl, hx, hstage, asks, hscope, hh,
    hreview, hsince⟩ := hb
  refine ⟨before, t, later ++ [l], x, id, organization, caller, H, by simp, hx, hstage, asks,
    hscope, hh, hreview, fun mid hmid => ?_⟩
  -- The draft is submitted after the last label too, and was so after all others.
  rcases List.prefix_concat_iff.1 hmid with rfl | hmid
  · exact ⟨K, by simpa using hk, hd⟩
  · exact hsince mid hmid

/-- A submission begins with the step in which a handler takes the session out of its review. -/
theorem begun_now {x : Handler} {id : Uuid} {organization : String} {caller : Option String}
    {given : Option (List LookupEntry)} {d : Draft} {H K : Handle}
    (hx : (s₀.after env labels).tasks[t]? = some (.handler x)) (hstage : x.stage = .atLock h)
    (asks : x.request = .submit id organization caller given)
    (hh : (s₀.after env labels).handles[h]? = some H) (hreview : H.session.stage = .review d)
    (hk : (s₀.after env (labels ++ [.run t])).handles[h]? = some K) (hd : K.session.Submits d) :
    Begun env s₀ (labels ++ [.run t]) h (Turn.scope organization caller) given d := by
  refine ⟨labels, t, [], x, id, organization, caller, H, rfl, hx, hstage, asks, rfl, hh, hreview,
    fun mid hmid => ?_⟩
  obtain rfl := List.prefix_nil.1 hmid
  exact ⟨K, hk, hd⟩

/-! ## The history of handlers -/

/-- Handlers stay with their requests. -/
theorem Acts.request {s : State} {y : Task} {H : Handle} {e : Effect}
    (acts : Acts env s t h l y H e) {z : Handler} (hz : e.task = .handler z) :
    ∃ x, y = .handler x ∧ x.request = z.request := by
  cases acts with
  | read | advance | abandon | record => cases hz
  | _ =>
    obtain rfl := Task.handler.inj hz
    exact ⟨_, rfl, rfl⟩

theorem History.handlers_concat (hs : Sound (s₀.after env labels))
    (hist : History env s₀ labels) {z : Handler} {K : Handle} {d : Draft}
    (hz : (s₀.after env (labels ++ [l])).tasks[t]? = some (.handler z))
    (hc : z.carries = some h) (hk : (s₀.after env (labels ++ [l])).handles[h]? = some K)
    (hd : K.session.stage = .submitting d) :
    ∃ id organization caller given, z.request = .submit id organization caller given ∧
      Begun env s₀ (labels ++ [l]) h (Turn.scope organization caller) given d := by
  have m := move_step env hs.inRange l
  rw [← after_concat] at m
  -- What a handler has begun before this step, it still has.
  have hbefore : ∀ {u : Nat} {x : Handler} {H : Handle},
      (s₀.after env labels).tasks[u]? = some (.handler x) → x.carries = some h →
      (s₀.after env labels).handles[h]? = some H → H.session.stage = .submitting d →
      x.request = z.request → ∃ id organization caller given,
        z.request = .submit id organization caller given ∧
        Begun env s₀ (labels ++ [l]) h (Turn.scope organization caller) given d := by
    intro u x H hx hcx hh hd' hreq
    obtain ⟨id, organization, caller, given, asks, hbegun⟩ := hist.handlers hx hcx hh hd'
    exact ⟨id, organization, caller, given, hreq ▸ asks, hbegun.concat hk (.inl hd)⟩
  rcases m.carrier hz hc with hold | ⟨u, y, H, e, hu, hh, acts, heq, ⟨rfl, hnew⟩ | hnew⟩
  · have hplace := place_of_carries (y := .handler z) hc
    obtain ⟨L, hl⟩ := hs.inRange _ _ _ hold hplace
    have late := (hs.fits hold hplace hl).late hc
    -- Another task may have acted on the session, but has not begun to submit it.
    rcases m.same_or_acted hl hk with ⟨-, hsame⟩ | ⟨u, y, e, -, acts, -, rfl⟩
    · exact hbefore hold hc hl (by rwa [hsame] at hd) rfl
    · rcases acts.submitting_back hd with hd' | ⟨x, _, _, _, _, -, -, -, reviewed, -⟩
      · exact hbefore hold hc hl hd' rfl
      · simp [Session.isLate, reviewed] at late
  · -- The handler has acted itself: it goes on with a submission, or begins one now.
    obtain rfl : K = e.handle := by
      rw [heq, handle_apply_self e hh] at hk
      exact (Option.some.inj hk).symm
    obtain ⟨x, rfl, hreq⟩ := acts.request hnew.symm
    rcases acts.submitting_back hd with hd' | ⟨x', id, _, _, _, hx', hstage, asks, reviewed, rfl, -⟩
    · obtain ⟨-, hcx | hearly⟩ := acts.carries (.inl hnew) hc
      · exact hbefore hu hcx hh hd' hreq
      · simp [Session.isLate_of_submitting hd'] at hearly
    · obtain rfl := Task.handler.inj hx'
      exact ⟨id, _, _, _, hreq ▸ asks, begun_now hu hstage asks hh reviewed hk (.inl hd)⟩
  · exact absurd hnew acts.not_handler

/-! ## The history of batches -/

/-- A batch that makes its calls takes their payloads from the queue. -/
theorem payloads_advance {s s' : State} {b : Submission} {run : Batch.Run Payload}
    {p : Batch.Policy} {backend : Batch.Backend} {now : Nat} {w : Batch.World}
    (polled : run = (b.run.poll p backend now w).1)
    (hcalls : s'.callsOf b.handle = s.callsOf b.handle ++ newCalls b run) :
    Submission.payloads s' { b with run } = b.payloads s := by
  simp only [Submission.payloads, hcalls, List.map_append, List.append_assoc,
    payloads_newCalls polled]

theorem History.batches_concat (hs : Sound (s₀.after env labels))
    (hl : Ledger env (s₀.after env labels)) (hsrc : Sourced env (s₀.after env labels))
    (hist : History env s₀ labels) {b : Submission} {K : Handle} {d : Draft}
    (hb : (s₀.after env (labels ++ [l])).tasks[t]? = some (.submission b))
    (hk : (s₀.after env (labels ++ [l])).handles[b.handle]? = some K) (hd : K.session.Submits d) :
    ∃ given table, Begun env s₀ (labels ++ [l]) b.handle b.scope given d ∧
      Supplied env (s₀.after env (labels ++ [l])) b.scope K.session.mode given table ∧
      b.payloads (s₀.after env (labels ++ [l])) =
        Payload.ofRows K.session.mode d.table.rows d.mapping table := by
  have m := move_step env hs.inRange l
  rw [← after_concat] at m
  -- What a batch has been given before this step, it still has.
  have hbefore : ∀ {u : Nat} {b₀ : Submission},
      (s₀.after env labels).tasks[u]? = some (.submission b₀) → b₀.handle = b.handle →
      b₀.scope = b.scope →
      b.payloads (s₀.after env (labels ++ [l])) = b₀.payloads (s₀.after env labels) →
      ∃ given table, Begun env s₀ (labels ++ [l]) b.handle b.scope given d ∧
        Supplied env (s₀.after env (labels ++ [l])) b.scope K.session.mode given table ∧
        b.payloads (s₀.after env (labels ++ [l])) =
          Payload.ofRows K.session.mode d.table.rows d.mapping table := by
    intro u b₀ hb₀ hhandle hscope hpayloads
    rw [← hhandle] at hk
    obtain ⟨H, hh⟩ := hs.inRange _ _ _ hb₀ rfl
    have hd' := m.submits_back hh ((hs.fits hb₀ rfl hh).late rfl) hk hd
    obtain ⟨given, table, hbegun, hsup, hpay⟩ := hist.batches hb₀ hh hd'
    rw [← hhandle, ← hscope, hpayloads, m.mode_kept hh hk]
    exact ⟨given, table, hbegun.concat hk hd, hsup.move m, hpay⟩
  cases m.batched hs hb with
  | kept task calls => exact hbefore task rfl rfl (by simp only [Submission.payloads, calls])
  | @advanced b₀ run task polled calls =>
    exact hbefore task rfl rfl (payloads_advance polled (callsOf_advance calls))
  | closed task calls => exact hbefore task rfl rfl (by simp only [Submission.payloads, calls])
  | @launched u h token x H d' id organization caller given table task at_ asks hh submitted
      calls =>
    -- The batch starts with the draft that the session has been submitting all along.
    have hc := Handler.carries_building at_
    have hd' := m.submits_back hh (Session.isLate_of_submitting submitted) hk hd
    obtain rfl : d' = d := by simpa [Session.Submits, submitted] using hd'
    obtain ⟨_, _, _, _, asks', hbegun⟩ := hist.handlers task hc hh submitted
    obtain ⟨-, rfl, rfl, rfl⟩ := Request.submit.inj (asks.symm.trans asks')
    have hsup := hsrc u h x H task hc hh
    simp only [Handler.Sourced, at_, asks] at hsup
    rw [m.mode_kept hh hk]
    refine ⟨given, table, hbegun.concat hk hd, hsup.move m, ?_⟩
    simp only [Submission.payloads, calls, hl.callsOf_eq_nil hs task hc, List.map_nil,
      List.nil_append, Batch.Run.start]

theorem History.of_labels (env : Surroundings) (firstId wall : Nat) (labels : List Label) :
    History env (State.start firstId wall) labels := by
  induction labels using List.reverseRecOn with
  | nil => constructor <;> simp [State.start]
  | append_singleton labels l ih =>
    have hr : Reachable env ((State.start firstId wall).after env labels) :=
      ⟨firstId, wall, labels, rfl⟩
    exact ⟨ih.handlers_concat hr.sound, ih.batches_concat hr.sound hr.ledger hr.sourced⟩

/-! ## Completed sessions -/

/-- In every run and for every session: no row is ever called twice, and if the session is
completed, there is a request on which its submission has begun under the draft `d`, such that
exactly the rows of `d` have been called, each once and in order, with the payloads that the mapping
of `d` and the lookup table of the submission give them.  The summary counts all rows, and has among
its failures, in row order, those whose calls have failed. -/
theorem completed_exactly_once (env : Surroundings) (firstId wall : Nat) (labels : List Label)
    (h : Nat) :
    let s := (State.start firstId wall).after env labels
    (∀ i, s.calls.countP (fun c => c.handle == h && c.row == i) ≤ 1) ∧
      ∀ H d m, s.handles[h]? = some H → H.session.stage = .completed d m →
        ∃ scope given table, Begun env (State.start firstId wall) labels h scope given d ∧
          Supplied env s scope H.session.mode given table ∧
          s.callsOf h = d.table.rows.mapIdx (fun i row =>
            { handle := h
              row := i
              scope
              payload := Payload.build H.session.mode (d.mapping.apply row) table }) ∧
          m.total = d.table.rows.length ∧ m.succeeded + m.failed.length = m.total ∧
          (m.failed.map RowResult.row).Pairwise (· < ·) ∧
          ∀ i, i < d.table.rows.length → ∃ k o, Made s h i k ∧
            (env.backend k).MayEnd env.policy.timeout o ∧
            ∀ x, x ∈ m.failed ∧ x.row = i ↔ o.isSuccess = false ∧ x = RowResult.of i o := by
  intro s
  have hr : Reachable env s := ⟨firstId, wall, labels, rfl⟩
  refine ⟨row_called_at_most_once hr h, ?_⟩
  intro H d m hh hcompleted
  obtain ⟨t, b, hb, rfl, hended⟩ := hr.concluded h H d m hh hcompleted
  obtain ⟨given, table, hbegun, hsup, hpayloads⟩ :=
    (History.of_labels env firstId wall labels).batches hb hh (.inr ⟨m, hcompleted⟩)
  have hbooked := hr.ledger.booked hb
  obtain ⟨hqueue, hflight, -⟩ := hbooked.orderly.ended m hended
  obtain ⟨htotal, hcount, hincreasing⟩ := hbooked.orderly.accounts hended
  rw [Submission.payloads, hqueue, List.append_nil] at hpayloads
  change (s.callsOf b.handle).map Call.payload = _ at hpayloads
  have hcalls := hbooked.callsOf_eq hpayloads
  -- All rows have been started, and all of them have been collected.
  have hlength : b.run.results.length = d.table.rows.length := by
    have hstarted := congrArg List.length hbooked.rows
    have hrows := congrArg List.length hpayloads
    simp only [List.length_map, List.length_range, Batch.Run.started, hflight, List.length_nil,
      Payload.ofRows] at hstarted hrows
    omega
  refine ⟨b.scope, given, table, hbegun, hsup, ?calls, htotal.trans hlength, hcount, hincreasing,
    ?rows⟩
  case calls =>
    rw [hcalls, Payload.ofRows]
    exact List.ext_getElem (by simp) fun i hi hi' => by simp
  case rows =>
    intro i hi
    obtain ⟨k, o, hmade, hend, hfailed⟩ :=
      hbooked.tracked.failed_iff hbooked.orderly hended (hlength ▸ hi)
    exact ⟨k, o, hmade, hend.of_quiet, hfailed⟩

/-- Two rows are submitted and completed. -/
theorem two_rows_exactly_once :
    let labels : List Label := Sample.submit (some []) ++
      [.run 1, .run 1, .run 2, .pass 5 5, .run 2, .pass 5 5, .run 2, .run 2]
    ∃ H d m, (Sample.after none labels).handles[0]? = some H ∧
      H.session.stage = .completed d m ∧ d.table.rows.length = 2 ∧
      ((Sample.after none labels).callsOf 0).length = m.total ∧ m.total = d.table.rows.length := by
  intro labels
  have hcompleted : (Sample.after none labels).handles[0]?.any (fun H =>
      H.session.status == .completed && H.session.table.rows.length == 2) = true := by
    decide +kernel
  obtain ⟨H, hh, hH⟩ := (Option.any_eq_true _ _).1 hcompleted
  simp only [Bool.and_eq_true, beq_iff_eq] at hH
  have hcompletion := H.session.stage_of_status
  rw [hH.1] at hcompletion
  obtain ⟨d, m, hstage⟩ := hcompletion
  have hrows : d.table.rows.length = 2 := by
    simpa [Session.table, Session.draft?, hstage] using hH.2
  obtain ⟨-, hall⟩ := completed_exactly_once (Sample.surroundings none) 0 0 labels 0
  obtain ⟨_, _, _, -, -, hcalls, htotal, -⟩ := hall H d m hh hstage
  refine ⟨H, d, m, hh, hstage, hrows, ?_, htotal⟩
  rw [htotal]
  exact (congrArg List.length hcalls).trans List.length_mapIdx

end

end SheetIntake.Service
