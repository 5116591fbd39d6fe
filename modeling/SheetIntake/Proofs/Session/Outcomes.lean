import SheetIntake.Session

/-! # What an action on a session finds and leaves behind

    Every action that succeeds has found the session in one particular stage, and leaves
    it in another.  The lemmas below say which, so that whoever reasons about sessions
    need not open the actions themselves.

    `isLate` tells the stages apart from which no review can be reached by an edit:
    a session that is submitting, completed or idle.  Only taking a submission back
    leads from there to a review again. -/

namespace SheetIntake.Session

/-! ## Stages without an open review -/

/-- Whether the review of the session is over, or the session has been given up. -/
def isLate (s : Session) : Bool :=
  match s.stage with
  | .submitting _ | .completed .. | .idle => true
  | .selected .. | .choosing .. | .review _ => false

theorem isLate_of_submitting {s : Session} {d : Draft} (h : s.stage = .submitting d) :
    s.isLate = true := by
  simp [isLate, h]

theorem isLate_of_idle {s : Session} (h : s.stage = .idle) : s.isLate = true := by
  simp [isLate, h]

@[simp] theorem stage_new (mode : Mode) : (new mode).stage = .idle := rfl

@[simp] theorem mode_new (mode : Mode) : (new mode).mode = mode := rfl

@[simp] theorem isLate_new (mode : Mode) : (new mode).isLate = true := rfl

/-! ## The stage behind a status -/

/-- The stage that a status comes from.  No session is ever seen as decoded. -/
theorem stage_of_status (s : Session) :
    match s.status with
    | .idle => s.stage = .idle
    | .fileSelected => ∃ name format content, s.stage = .selected name format content
    | .multiSheetPending => ∃ name content names, s.stage = .choosing name content names
    | .decoded => False
    | .mappingReview => ∃ d, s.stage = .review d ∧ d.problems ≠ []
    | .validated => ∃ d, s.stage = .review d ∧ d.problems = []
    | .submitting => ∃ d, s.stage = .submitting d
    | .completed => ∃ d summary, s.stage = .completed d summary := by
  unfold status
  cases s.stage with
  | review d => by_cases hp : d.problems = [] <;> simp [hp]
  | _ => simp

/-- A session is submitting exactly when its stage is. -/
theorem status_eq_submitting {s : Session} :
    s.status = .submitting ↔ ∃ d, s.stage = .submitting d := by
  unfold status
  cases hs : s.stage with
  | review d => by_cases hp : d.problems.isEmpty <;> simp [hp]
  | _ => simp

/-! ## Actions that succeed -/

theorem edit_eq_ok {s s' : Session} {change : Draft → Except ImportError Mapping}
    {messages : List String} (h : s.edit change = (s', .ok messages)) :
    ∃ d mapping, s.stage = .review d ∧
      s' = { s with stage := .review (d.remapped s.mode mapping) } := by
  unfold edit at h
  split at h
  · rename_i d hs
    split at h
    · rename_i mapping _
      obtain ⟨rfl, -⟩ := Prod.mk.inj h
      exact ⟨d, mapping, hs, rfl⟩
    · cases h
  · cases h

theorem begin_eq_ok {s s' : Session} (h : s.begin = (s', .ok ())) :
    ∃ d, s.stage = .review d ∧ d.problems = [] ∧ s' = { s with stage := .submitting d } := by
  unfold begin at h
  split at h
  · rename_i d hs
    split at h
    · rename_i hnone
      obtain ⟨rfl, -⟩ := Prod.mk.inj h
      exact ⟨d, hs, hnone, rfl⟩
    · cases h
  · cases h

theorem payloads_eq_ok {s : Session} {table : List LookupEntry} {ps : List Payload}
    (h : s.payloads table = .ok ps) :
    ∃ d, s.stage = .submitting d ∧ ps = Payload.ofRows s.mode d.table.rows d.mapping table := by
  unfold payloads at h
  split at h
  · rename_i d hs
    exact ⟨d, hs, (Except.ok.inj h).symm⟩
  · cases h

theorem payloads_eq_error {s : Session} {table : List LookupEntry} {e : ImportError}
    (h : s.payloads table = .error e) : ∀ d, s.stage ≠ .submitting d := by
  intro d hs
  simp [payloads, hs] at h

theorem cancel_eq_ok {s s' : Session} (h : s.cancel = (s', .ok ())) : s' = new s.mode := by
  unfold cancel at h
  split at h
  · cases h
  · cases h
  · exact (Prod.mk.inj h).1.symm

theorem reset_eq_ok {s s' : Session} (h : s.reset = (s', .ok ())) :
    s.isLate = true ∧ (∀ d, s.stage ≠ .submitting d) ∧ s' = new s.mode := by
  unfold reset at h
  split at h
  · rename_i hs
    exact ⟨by simp [isLate, hs], by simp [hs], (Prod.mk.inj h).1.symm⟩
  · rename_i hs
    exact ⟨by simp [isLate, hs], by simp [hs], (Prod.mk.inj h).1.symm⟩
  · cases h

/-! ## What becomes of a session whatever the action says -/

/-- Taking a submission back opens the review again, and changes no other session. -/
theorem abort_cases (s : Session) :
    (∃ d, s.stage = .submitting d ∧ s.abort.1 = { s with stage := .review d }) ∨
      (∀ d, s.stage ≠ .submitting d) ∧ s.abort.1 = s := by
  unfold abort
  split
  · rename_i d hs
    exact .inl ⟨d, hs, rfl⟩
  · rename_i hs
    exact .inr ⟨hs, rfl⟩

/-- Recording a summary completes a session that is submitting, and changes no other. -/
theorem complete_cases (s : Session) (summary : Summary) :
    (∃ d, s.stage = .submitting d ∧
        (s.complete summary).1 = { s with stage := .completed d summary }) ∨
      (∀ d, s.stage ≠ .submitting d) ∧ (s.complete summary).1 = s := by
  unfold complete
  split
  · rename_i d hs
    exact .inl ⟨d, hs, rfl⟩
  · rename_i hs
    exact .inr ⟨hs, rfl⟩

/-- Reading a chosen sheet changes only a session that waits for the choice.  It is reviewed
then, or given up, or waits on. -/
theorem chooseSheet_cases (s : Session) (number : Nat) :
    (s.chooseSheet number).1 = s ∨
      (s.isLate = false ∧ ∃ d, (s.chooseSheet number).1 = { s with stage := .review d }) ∨
      (s.isLate = false ∧ (s.chooseSheet number).1 = new s.mode) := by
  unfold chooseSheet
  split
  · rename_i hs
    have hl : s.isLate = false := by simp [isLate, hs]
    split
    · exact .inr (.inl ⟨hl, _, rfl⟩)
    · exact .inl rfl
    · exact .inl rfl
    · exact .inr (.inr ⟨hl, rfl⟩)
  · exact .inl rfl

/-- A file that has just been selected is not late once it is read, and waits for nothing but
a sheet or a review. -/
theorem decode_eq_ok {s s' : Session} {status : Status} (h : s.decode = (s', .ok status)) :
    s'.isLate = false := by
  unfold decode at h
  split at h
  · split at h
    · obtain ⟨rfl, -⟩ := Prod.mk.inj h
      rfl
    · obtain ⟨rfl, -⟩ := Prod.mk.inj h
      rfl
    · cases h
    · cases h
  · cases h

end SheetIntake.Session
