import SheetIntake.Proofs.Session.Consistent

/-! # Actions that fail

    An action that fails leaves the session exactly as it was, with one exception: when a file
    or a sheet cannot be read, the import starts over (`Session.Unharmed.failed`).

    That an action fails is shown, too, for the edits and choices that a session must refuse:
    a list with an entry out of place at its end, a column or a field that there is not, and a
    sheet that there is not.  And a submission that has begun can be taken back without a trace. -/

namespace SheetIntake

namespace Session

variable {s s' : Session} {a : Action}

/-! ## What a failure leaves behind -/

theorem Transition.failed {e : ImportError} (h : Transition s a s' (.error e)) :
    s' = if a.reads = true ∧ e.isUnreadable = true then new s.mode else s := by
  generalize hanswer : Except.error e = answer at h
  cases h with
  | refuse harmless =>
    obtain rfl := Except.error.inj hanswer
    rw [if_neg]
    rintro ⟨hreads, hunreadable⟩
    simp [harmless hreads] at hunreadable
  | giveUp reads unreadable =>
    obtain rfl := Except.error.inj hanswer
    exact (if_pos ⟨reads, unreadable⟩).symm
  | _ => cases hanswer

theorem perform_of_error {e : ImportError} (h : (s.perform a).2 = .error e) :
    (s.perform a).1 = if a.reads = true ∧ e.isUnreadable = true then new s.mode else s := by
  have htransition := transition_perform s a
  rw [h] at htransition
  exact htransition.failed

/-! ## What is refused -/

theorem edit_of_bad {change : Draft → Except ImportError Mapping}
    (bad : ∀ d, s.stage = .review d → ∃ e, change d = .error e) :
    ∃ e, s.edit change = (s, .error e) := by
  unfold edit
  split
  · rename_i d hreview
    obtain ⟨e, he⟩ := bad d hreview
    exact ⟨e, by rw [he]⟩
  · exact ⟨_, rfl⟩

theorem table_of_review {d : Draft} (h : s.stage = .review d) : s.table = d.table := by
  simp [table, draft?, h]

/-- A list with an entry out of place at its end is refused as a whole. -/
theorem replaceMapping_misplaced {before : Mapping} {c : ColumnMapping}
    (h : Mapping.IsMisplaced s.mode.fields s.table.headers before c) :
    ∃ e, s.replaceMapping (before ++ [c]) = (s, .error e) := by
  refine edit_of_bad fun d hreview => ?_
  rw [table_of_review hreview] at h
  exact Mapping.replace_misplaced h []

/-- A column or a field that there is not cannot be assigned. -/
theorem Valid.assign_unknown (valid : s.Valid) {header : String} {target : Option String}
    (h : header ∉ s.table.headers ∨
      ∃ key, target.bind Text.trimmed? = some key ∧ key ∉ s.mode.fields.map TargetField.key) :
    ∃ e, s.assign header target = (s, .error e) := by
  refine edit_of_bad fun d hreview => Mapping.assign_unknown ?_
  have hfits := (valid.draft (by simp [draft?, hreview] : s.draft? = some d)).mapping
  rwa [table_of_review hreview, ← hfits.columns] at h

/-- A sheet that there is not cannot be chosen. -/
theorem Valid.chooseSheet_out_of_range (valid : s.Valid) {number : Nat}
    (h : number = 0 ∨ s.sheetNames.length < number) :
    ∃ e, s.chooseSheet number = (s, .error e) := by
  unfold Valid at valid
  unfold chooseSheet
  split
  · rename_i name content names hchoosing
    rw [hchoosing] at valid
    have hnames : s.sheetNames = names := by simp [sheetNames, hchoosing]
    rw [Content.decodeSheet_out_of_range valid.1 (hnames ▸ h)]
    exact ⟨_, rfl⟩
  · exact ⟨_, rfl⟩

/-! ## Taking a submission back -/

theorem abort_begin (h : s.status = .validated) :
    ∃ begun, s.begin = (begun, .ok ()) ∧ begun.status = .submitting ∧
      begun.abort = (s, .ok ()) := by
  have hstage := stage_of_status s
  rw [h] at hstage
  obtain ⟨mode, stage⟩ := s
  obtain ⟨d, hreview, hnone⟩ := hstage
  obtain rfl : stage = .review d := hreview
  exact ⟨{ mode, stage := .submitting d }, by simp [Session.begin, hnone], rfl, rfl⟩

/-! ## Every session -/

/-- How the actions on a session of a mode fail, and how a submission of it is taken back. -/
structure Unharmed (mode : Mode) (s : Session) : Prop where
  /-- The session is the same, or a new one if the file or the sheet cannot be read. -/
  failed : ∀ (a : Action) (e : ImportError), (s.perform a).2 = .error e →
    (s.perform a).1 = if a.reads = true ∧ e.isUnreadable = true then new mode else s
  misplaced : ∀ (before : Mapping) (c : ColumnMapping),
    Mapping.IsMisplaced mode.fields s.table.headers before c →
      ∃ e, s.replaceMapping (before ++ [c]) = (s, .error e)
  unknown : ∀ (header : String) (target : Option String),
    (header ∉ s.table.headers ∨
      ∃ key, target.bind Text.trimmed? = some key ∧ key ∉ mode.fields.map TargetField.key) →
      ∃ e, s.assign header target = (s, .error e)
  out_of_range : ∀ number : Nat, number = 0 ∨ s.sheetNames.length < number →
    ∃ e, s.chooseSheet number = (s, .error e)
  taken_back : s.status = .validated →
    ∃ begun, s.begin = (begun, .ok ()) ∧ begun.status = .submitting ∧ begun.abort = (s, .ok ())

theorem Valid.unharmed (valid : s.Valid) : s.Unharmed s.mode where
  failed _ _ := perform_of_error
  misplaced _ _ := replaceMapping_misplaced
  unknown _ _ := valid.assign_unknown
  out_of_range _ := valid.chooseSheet_out_of_range
  taken_back := abort_begin

end Session

end SheetIntake
