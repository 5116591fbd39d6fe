import SheetIntake.Proofs.Session.Outcomes
import SheetIntake.Proofs.Session.Transitions

/-! # What holds of every session

    Whatever is done to a new session, and however often it is refused, the session stays
    consistent: its parts agree with each other and with its status (`Session.Consistent`).

    The invariant behind it looks at the stages (`Session.Valid`).  A selected file has a name
    that stands for its format, a choice is between the sheets of the file, and a draft has a
    well-formed table, a mapping that fits it and the messages of this mapping, of which there
    are none any more once the draft is submitted.  Every transition keeps it, hence every run
    of actions; what can be seen of a session is read off it. -/

namespace SheetIntake

/-! ## The invariant -/

/-- The table is well formed, the mapping fits it, and the messages are those of the mapping. -/
structure Draft.Valid (mode : Mode) (d : Draft) : Prop where
  table : d.table.WellFormed
  mapping : Mapping.Fits mode.fields d.table.headers d.mapping
  problems : d.problems = Mapping.problems mode.fields d.mapping

/-- What every stage of a session keeps to. -/
def SessionStage.Valid (mode : Mode) : SessionStage → Prop
  | .idle => True
  | .selected name format _ => FileFormat.ofName name = .ok format
  | .choosing _ content names => content.sheetNames = .ok names ∧ 2 ≤ names.length
  | .review d => d.Valid mode
  | .submitting d | .completed d _ => d.Valid mode ∧ d.problems = []

/-- Whether a table has been read and its columns are mapped. -/
def Status.hasTable : Status → Bool
  | .mappingReview | .validated | .submitting | .completed => true
  | .idle | .fileSelected | .multiSheetPending | .decoded => false

namespace Session

variable {s s' : Session} {a : Action} {answer : Except ImportError Answer}

def Valid (s : Session) : Prop := s.stage.Valid s.mode

theorem valid_new (mode : Mode) : (new mode).Valid := trivial

/-- A table that has just been read is mapped as proposed, and validated. -/
theorem valid_reviewing (s : Session) (name : String) (sheetName : Option String) {t : Table}
    (h : t.WellFormed) : (s.reviewing name sheetName t).Valid :=
  ⟨h, Mapping.fits_propose s.mode.fields t.headers, rfl⟩

/-! ## What a transition keeps -/

theorem Transition.mode (h : Transition s a s' answer) : s'.mode = s.mode := by
  cases h with
  | _ => rfl

theorem Transition.valid (h : Transition s a s' answer) (valid : s.Valid) : s'.Valid := by
  unfold Session.Valid at valid
  cases h with
  | refuse => exact valid
  | giveUp => exact valid_new s.mode
  | select idle known => exact known
  | offer selected listed several => exact ⟨listed, several⟩
  | read reads wellFormed => exact valid_reviewing s _ _ wellFormed
  | edit reviewed fits =>
    -- An edit validates the new mapping at once.
    rw [reviewed] at valid
    exact ⟨valid.table, fits valid.mapping, rfl⟩
  | begin reviewed complete =>
    -- From here on nothing edits the draft, so that nothing is missing later, either.
    rw [reviewed] at valid
    exact ⟨valid, complete⟩
  | build => exact valid
  | abort submitting =>
    rw [submitting] at valid
    exact valid.1
  | complete submitting =>
    rw [submitting] at valid
    exact valid
  | clear => exact valid_new s.mode

/-! ## What a run of actions keeps -/

@[simp] theorem after_cons (s : Session) (a : Action) (actions : List Action) :
    s.after (a :: actions) = (s.perform a).1.after actions := rfl

theorem mode_after (s : Session) (actions : List Action) : (s.after actions).mode = s.mode := by
  induction actions generalizing s with
  | nil => rfl
  | cons a actions ih => rw [after_cons, ih, (transition_perform s a).mode]

theorem Valid.after (valid : s.Valid) (actions : List Action) : (s.after actions).Valid := by
  induction actions generalizing s with
  | nil => exact valid
  | cons a actions ih => exact ih ((transition_perform s a).valid valid)

/-! ## What can be seen of a session -/

/-- What the parts of a session of a mode have to do with each other and with its status. -/
structure Consistent (mode : Mode) (s : Session) : Prop where
  mode_eq : s.mode = mode
  /-- A file is never seen between reading and mapping it. -/
  not_decoded : s.status ≠ .decoded
  idle_iff : s.status = .idle ↔ s = new mode
  /-- The name of a selected file stands for the format in which it will be read. -/
  known_format : s.status = .fileSelected →
    ∃ name format content, s.stage = .selected name format content ∧
      FileFormat.ofName name = .ok format
  choice : s.status = .multiSheetPending → 2 ≤ s.sheetNames.length ∧ s.table.rows = []
  table : s.status.hasTable = true → s.table.WellFormed
  mapping : s.status.hasTable = true → Mapping.Fits mode.fields s.table.headers s.mapping
  problems_eq : s.status.hasTable = true → s.problems = Mapping.problems mode.fields s.mapping
  review_iff : s.status.hasTable = true → (s.status = .mappingReview ↔ s.problems ≠ [])
  /-- Past the review, a column goes to every required field. -/
  required : s.status.hasTable = true → s.status ≠ .mappingReview →
    ∀ f ∈ mode.fields, f.required = true → f.key ∈ s.mapping.targets
  summary_iff : s.summary?.isSome = true ↔ s.status = .completed

theorem hasTable_iff : s.status.hasTable = true ↔ ∃ d, s.draft? = some d := by
  unfold status draft?
  cases hs : s.stage with
  | review d => by_cases hp : d.problems.isEmpty <;> simp [hp, Status.hasTable]
  | _ => simp [Status.hasTable]

theorem Valid.draft (valid : s.Valid) {d : Draft} (h : s.draft? = some d) : d.Valid s.mode := by
  obtain ⟨mode, stage⟩ := s
  cases stage with
  | review d' =>
    obtain rfl := Option.some.inj h
    exact valid
  | submitting d' =>
    obtain rfl := Option.some.inj h
    exact valid.1
  | completed d' summary =>
    obtain rfl := Option.some.inj h
    exact valid.1
  | _ => cases h

theorem Valid.status_eq_mappingReview_iff (valid : s.Valid) {d : Draft} (h : s.draft? = some d) :
    s.status = .mappingReview ↔ d.problems ≠ [] := by
  obtain ⟨mode, stage⟩ := s
  cases stage with
  | review d' =>
    obtain rfl := Option.some.inj h
    by_cases hp : d'.problems = [] <;> simp [status, hp]
  | submitting d' =>
    obtain rfl := Option.some.inj h
    simp [status, show d'.problems = [] from valid.2]
  | completed d' summary =>
    obtain rfl := Option.some.inj h
    simp [status, show d'.problems = [] from valid.2]
  | _ => cases h

theorem Valid.consistent (valid : s.Valid) : s.Consistent s.mode where
  mode_eq := rfl
  not_decoded h := by
    have hstage := stage_of_status s
    rwa [h] at hstage
  idle_iff := by
    refine ⟨fun h => ?_, fun h => h ▸ rfl⟩
    have hstage := stage_of_status s
    rw [h] at hstage
    obtain ⟨mode, stage⟩ := s
    exact congrArg (Session.mk mode) hstage
  known_format h := by
    have hstage := stage_of_status s
    rw [h] at hstage
    obtain ⟨name, format, content, hs⟩ := hstage
    unfold Session.Valid at valid
    rw [hs] at valid
    exact ⟨name, format, content, hs, valid⟩
  choice h := by
    have hstage := stage_of_status s
    rw [h] at hstage
    obtain ⟨name, content, names, hs⟩ := hstage
    unfold Session.Valid at valid
    rw [hs] at valid
    simpa [sheetNames, Session.table, draft?, hs] using valid.2
  table h := by
    obtain ⟨d, hd⟩ := hasTable_iff.1 h
    simpa [Session.table, hd] using (valid.draft hd).table
  mapping h := by
    obtain ⟨d, hd⟩ := hasTable_iff.1 h
    simpa [Session.table, Session.mapping, hd] using (valid.draft hd).mapping
  problems_eq h := by
    obtain ⟨d, hd⟩ := hasTable_iff.1 h
    simpa [Session.problems, Session.mapping, hd] using (valid.draft hd).problems
  review_iff h := by
    obtain ⟨d, hd⟩ := hasTable_iff.1 h
    simpa [Session.problems, hd] using valid.status_eq_mappingReview_iff hd
  required h hreview := by
    obtain ⟨d, hd⟩ := hasTable_iff.1 h
    have hnone := not_not.1 (mt (valid.status_eq_mappingReview_iff hd).2 hreview)
    rw [(valid.draft hd).problems, Mapping.problems_eq_nil_iff] at hnone
    simpa [Session.mapping, hd] using hnone
  summary_iff := by
    unfold summary? status
    cases s.stage with
    | review d => by_cases hp : d.problems = [] <;> simp [hp]
    | _ => simp

/-- Every session is consistent, whatever has been tried on it. -/
theorem always_consistent (mode : Mode) (actions : List Action) :
    ((new mode).after actions).Consistent mode := by
  have hmode : ((new mode).after actions).mode = mode := mode_after (new mode) actions
  have hvalid : ((new mode).after actions).Valid := (valid_new mode).after actions
  simpa [hmode] using hvalid.consistent

/-- An import that goes through all stages: the second sheet of a workbook, of which one column has
to be mapped by hand. -/
def Sample.actions : List Action := [
  .selectFile "houses.xlsx" (.workbook
    { format := .xlsx, from1904 := false
      sheets := [.ofTexts "Notes" [["nothing"]],
        .ofTexts "Houses" [["Title", "City"], ["Villa", "Rome"], ["Hut", "Oslo"]]] }),
  .decode, .chooseSheet 2, .assign "Title" (some " name "), .begin,
  .complete { total := 2, succeeded := 2, failed := [] }]

/-- At each of its stages the sample is consistent. -/
theorem sample_consistent :
    (∀ n, ((new .properties).after (Sample.actions.take n)).Consistent .properties) ∧
      (List.range 7).map (fun n => ((new .properties).after (Sample.actions.take n)).status) =
        [.idle, .fileSelected, .multiSheetPending, .mappingReview, .validated, .submitting,
          .completed] :=
  ⟨fun n => always_consistent .properties (Sample.actions.take n), by decide +kernel⟩

end Session

end SheetIntake
