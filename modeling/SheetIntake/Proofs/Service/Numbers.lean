import SheetIntake.Proofs.Service.Soundness

/-! # Identifiers and tokens

    Sessions are numbered through, and so are tokens.  So no two sessions have one
    identifier, or share a token, and a token that has not been handed out is not
    cancelled. -/

namespace SheetIntake.Service

/-- Identifiers and tokens are handed out one by one. -/
structure Numbered (s : State) : Prop where
  ids : ∀ {h : Nat} {H : Handle}, s.handles[h]? = some H →
    H.id.value + s.handles.length = s.nextId + h
  fresh : ∀ {h : Nat} {H : Handle}, s.handles[h]? = some H → H.token < s.tokens
  apart : ∀ {h k : Nat} {H K : Handle}, s.handles[h]? = some H → s.handles[k]? = some K →
    H.token = K.token → h = k
  spent : ∀ token ∈ s.cancelled, token < s.tokens

/-- Sessions are known by their identifiers. -/
theorem Numbered.eq_of_id {s : State} (hn : Numbered s) {h k : Nat} {H K : Handle}
    (hh : s.handles[h]? = some H) (hk : s.handles[k]? = some K) (hid : H.id = K.id) : h = k := by
  have h₁ := hn.ids hh
  have h₂ := hn.ids hk
  rw [hid] at h₁
  omega

section
variable {env : Surroundings} {s s' : State} {l : Label} {t h : Nat} {y : Task} {H : Handle}
  {e : Effect}

/-- A task cancels no token but that of its session, and arms none but a fresh one. -/
theorem Acts.numbers (acts : Acts env s t h l y H e) :
    e.handle.id = H.id ∧ (∀ token ∈ e.cancelled, token = H.token) ∧
      (e.handle.token = H.token ∧ e.minted = 0 ∨ e.handle.token = s.tokens ∧ e.minted = 1) := by
  cases acts with
  | arm | armFetching => exact ⟨rfl, by simp, .inr ⟨rfl, rfl⟩⟩
  | _ => exact ⟨rfl, by simp, .inl ⟨rfl, rfl⟩⟩

theorem numbered_start (firstId wall : Nat) : Numbered (State.start firstId wall) := by
  constructor <;> simp [State.start]

theorem Numbered.apply (hn : Numbered s) (hh : s.handles[h]? = some H)
    (acts : Acts env s t h l y H e) : Numbered (s.apply t h e) := by
  obtain ⟨hid, hcancelled, htoken⟩ := acts.numbers
  have hold := hn.fresh hh
  have hle : s.tokens ≤ (s.apply t h e).tokens := Nat.le_add_right _ _
  refine ⟨?ids, ?fresh, ?apart, ?spent⟩
  case ids =>
    intro k K hk
    rw [length_handles_apply]
    rcases handle_apply_cases hk hh with ⟨rfl, rfl⟩ | ⟨-, hk⟩
    · rw [hid]
      exact hn.ids hh
    · exact hn.ids hk
  case fresh =>
    intro k K hk
    rcases handle_apply_cases hk hh with ⟨rfl, rfl⟩ | ⟨-, hk⟩
    · simp only [State.apply]
      omega
    · exact Nat.lt_of_lt_of_le (hn.fresh hk) hle
  case apart =>
    intro j k J K hj hk heq
    rcases handle_apply_cases hj hh with ⟨rfl, rfl⟩ | ⟨hjh, hjold⟩ <;>
      rcases handle_apply_cases hk hh with ⟨rfl, rfl⟩ | ⟨hkh, hkold⟩
    · rfl
    · -- The new token is either the old one, which was apart, or fresh.
      rcases htoken with ⟨hsame, -⟩ | ⟨hnew, -⟩
      · exact absurd (hn.apart hkold hh (heq.symm.trans hsame)) hkh
      · have := hn.fresh hkold
        omega
    · rcases htoken with ⟨hsame, -⟩ | ⟨hnew, -⟩
      · exact absurd (hn.apart hjold hh (heq.trans hsame)) hjh
      · have := hn.fresh hjold
        omega
    · exact hn.apart hjold hkold heq
  case spent =>
    intro token htok
    rcases List.mem_append.1 htok with hnew | hold'
    · rw [hcancelled token hnew]
      exact Nat.lt_of_lt_of_le hold hle
    · exact Nat.lt_of_lt_of_le (hn.spent token hold') hle

theorem Numbered.create (hn : Numbered s) {session : Session} {tasks : List Task} :
    Numbered
      { s with
        handles := s.handles ++
          [{ id := ⟨s.nextId⟩, session, holder := none, progress := 0, token := s.tokens
             lastSeen := s.wall, listed := true }]
        tasks := tasks
        tokens := s.tokens + 1
        nextId := s.nextId + 1 } := by
  refine ⟨?ids, ?fresh, ?apart, ?spent⟩
  case ids =>
    intro k K hk
    simp only [List.length_append, List.length_singleton]
    rcases getElem?_concat_cases hk with hk | ⟨rfl, rfl⟩
    · have := hn.ids hk
      omega
    · simp only
      omega
  case fresh =>
    intro k K hk
    rcases getElem?_concat_cases hk with hk | ⟨rfl, rfl⟩
    · exact Nat.lt_succ_of_lt (hn.fresh hk)
    · exact Nat.lt_succ_self _
  case apart =>
    intro j k J K hj hk heq
    rcases getElem?_concat_cases hj with hj | ⟨rfl, rfl⟩ <;>
      rcases getElem?_concat_cases hk with hk | ⟨rfl, rfl⟩
    · exact hn.apart hj hk heq
    · exact absurd heq (Nat.ne_of_lt (hn.fresh hj))
    · exact absurd heq.symm (Nat.ne_of_lt (hn.fresh hk))
    · rfl
  case spent => exact fun token htok => Nat.lt_succ_of_lt (hn.spent token htok)

theorem Numbered.sweep (hn : Numbered s) (maxIdle : Nat) : Numbered (s.sweep maxIdle) := by
  refine ⟨?ids, ?fresh, ?apart, hn.spent⟩
  case ids =>
    intro k K hk
    obtain ⟨H, hH, rfl⟩ := handle_sweep hk
    simpa [State.sweep] using hn.ids hH
  case fresh =>
    intro k K hk
    obtain ⟨H, hH, rfl⟩ := handle_sweep hk
    exact hn.fresh (H := H) hH
  case apart =>
    intro j k J K hj hk heq
    obtain ⟨_, hJ, rfl⟩ := handle_sweep hj
    obtain ⟨_, hK, rfl⟩ := handle_sweep hk
    exact hn.apart hJ hK heq

theorem Numbered.move (hn : Numbered s) (m : Move env s l s') : Numbered s' := by
  cases m with
  | stay | arrive | decline | leave | pass => exact ⟨hn.ids, hn.fresh, hn.apart, hn.spent⟩
  | create => exact hn.create
  | act task handle acts => exact hn.apply handle acts
  | sweep maxIdle => exact hn.sweep maxIdle

/-- Sessions keep their places and their identifiers. -/
theorem Move.id_kept (m : Move env s l s') {k : Nat} {K : Handle}
    (hk : s.handles[k]? = some K) : ∃ K', s'.handles[k]? = some K' ∧ K'.id = K.id := by
  cases m with
  | stay | arrive | decline | leave | pass => exact ⟨K, hk, rfl⟩
  | create =>
    obtain ⟨hlt, -⟩ := List.getElem?_eq_some_iff.1 hk
    exact ⟨K, by rw [List.getElem?_append_left hlt]; exact hk, rfl⟩
  | @act l t h y H e task handle acts =>
    by_cases hkh : k = h
    · subst hkh
      obtain rfl : K = H := Option.some.inj (hk.symm.trans handle)
      exact ⟨e.handle, handle_apply_self e handle, acts.numbers.1⟩
    · exact ⟨K, by rw [handle_apply_ne e hkh]; exact hk, rfl⟩
  | sweep maxIdle =>
    exact ⟨{ K with listed := K.listed && !K.isExpired s.wall maxIdle },
      by simp [State.sweep, hk], rfl⟩

theorem Move.cancelled_kept (m : Move env s l s') {token : Nat} (htoken : token ∈ s.cancelled) :
    token ∈ s'.cancelled := by
  cases m with
  | act => exact List.mem_append_right _ htoken
  | _ => exact htoken

/-- In every state that is reached, identifiers and tokens are handed out one by one. -/
theorem Reachable.numbered (hr : Reachable env s) : Numbered s :=
  hr.keeps numbered_start fun _ hn m => hn.move m

end

end SheetIntake.Service
