import SheetIntake.Proofs.Mapping
import SheetIntake.Proofs.Upload.Reading
import SheetIntake.Session.Action

/-! # What an action does to a session

    `Transition` lists everything that an action can do to a session: what it finds, what it
    leaves behind and what it answers.  Whoever reasons about all actions goes through its
    cases and need not open the actions again (`transition_perform`).

    Two of the cases end in an error.  One leaves the session alone.  The other gives it up,
    and this happens only when a file or a sheet cannot be read. -/

namespace SheetIntake.Session

/-- Whether an action reads the file. -/
def Action.reads : Action → Bool
  | .decode | .chooseSheet _ => true
  | _ => false

/-- Everything that an action can do. -/
inductive Transition (s : Session) : Action → Session → Except ImportError Answer → Prop where
  /-- The action is refused, and nothing has happened. -/
  | refuse {a : Action} {e : ImportError} (harmless : a.reads = true → e.isUnreadable = false) :
      Transition s a s (.error e)
  /-- The file or the sheet cannot be read, and the import starts over. -/
  | giveUp {a : Action} {e : ImportError} (reads : a.reads = true)
      (unreadable : e.isUnreadable = true) : Transition s a s.cleared (.error e)
  | select {name : String} {content : Content} {format : FileFormat} (idle : s.stage = .idle)
      (known : FileFormat.ofName name = .ok format) :
      Transition s (.selectFile name content)
        { s with stage := .selected name format content } (.ok .done)
  /-- There are several sheets to choose from. -/
  | offer {name : String} {format : FileFormat} {content : Content} {names : List String}
      {answer : Answer} (selected : s.stage = .selected name format content)
      (listed : content.sheetNames = .ok names) (several : 2 ≤ names.length) :
      Transition s .decode { s with stage := .choosing name content names } (.ok answer)
  /-- A table has been read and is reviewed. -/
  | read {a : Action} {name : String} {sheetName : Option String} {t : Table} {answer : Answer}
      (reads : a.reads = true) (wellFormed : t.WellFormed) :
      Transition s a (s.reviewing name sheetName t) (.ok answer)
  /-- The mapping is edited, which keeps it fitting the file. -/
  | edit {a : Action} {d : Draft} {mapping : Mapping} {answer : Answer}
      (reviewed : s.stage = .review d)
      (fits : Mapping.Fits s.mode.fields d.table.headers d.mapping →
        Mapping.Fits s.mode.fields d.table.headers mapping) :
      Transition s a { s with stage := .review (d.remapped s.mode mapping) } (.ok answer)
  | begin {d : Draft} (reviewed : s.stage = .review d) (complete : d.problems = []) :
      Transition s .begin { s with stage := .submitting d } (.ok .done)
  | build {d : Draft} {lookup : List LookupEntry} {ps : List Payload}
      (submitting : s.stage = .submitting d) :
      Transition s (.payloads lookup) s (.ok (.payloads ps))
  | abort {d : Draft} (submitting : s.stage = .submitting d) :
      Transition s .abort { s with stage := .review d } (.ok .done)
  | complete {d : Draft} {summary : Summary} (submitting : s.stage = .submitting d) :
      Transition s (.complete summary) { s with stage := .completed d summary } (.ok .done)
  /-- The import is cancelled or reset. -/
  | clear {a : Action} (asked : a = .cancel ∨ a = .reset) : Transition s a s.cleared (.ok .done)

namespace Transition

variable {s : Session}

/-! ## Action by action -/

/-- Refusing an action that does not fit the stage is harmless. -/
theorem out_of_turn (s : Session) (a : Action) (action : String) :
    Transition s a s (.error (s.refuse action)) :=
  .refuse fun _ => rfl

theorem of_selectFile (s : Session) (name : String) (content : Content) :
    Transition s (.selectFile name content) (s.perform (.selectFile name content)).1
      (s.perform (.selectFile name content)).2 := by
  simp only [perform, selectFile]
  split
  · rename_i hidle
    split
    · rename_i format hformat
      exact .select hidle hformat
    · exact .refuse (by simp [Action.reads])
  · exact out_of_turn ..

theorem of_decode (s : Session) :
    Transition s .decode (s.perform .decode).1 (s.perform .decode).2 := by
  simp only [perform, decode]
  split
  · rename_i hselected
    split
    · rename_i names hread
      obtain ⟨_, _, heq, -⟩ | ⟨_, heq, hlisted, hseveral⟩ := Content.read_ok hread
      · cases heq
      · obtain rfl := Decoded.choice.inj heq
        exact .offer hselected hlisted hseveral
    · rename_i sheetName t hread
      obtain ⟨_, _, heq, htable⟩ | ⟨_, heq, -⟩ := Content.read_ok hread
      · obtain ⟨rfl, rfl⟩ := Decoded.table.inj heq
        exact .read rfl htable
      · cases heq
    · exact .refuse fun _ => rfl
    · rename_i e hnot hread
      obtain hunreadable | ⟨detail, rfl⟩ := Content.read_error hread
      · exact .giveUp rfl hunreadable
      · exact absurd rfl (hnot detail)
  · exact out_of_turn ..

theorem of_chooseSheet (s : Session) (number : Nat) :
    Transition s (.chooseSheet number) (s.perform (.chooseSheet number)).1
      (s.perform (.chooseSheet number)).2 := by
  simp only [perform, chooseSheet]
  split
  · split
    · rename_i t hread
      exact .read rfl (Content.decodeSheet_wellFormed hread)
    · exact .refuse fun _ => rfl
    · exact .refuse fun _ => rfl
    · rename_i e hnorange hnot hread
      obtain ⟨count, rfl⟩ | hunreadable | ⟨detail, rfl⟩ := Content.decodeSheet_error hread
      · exact absurd rfl (hnorange number count)
      · exact .giveUp rfl hunreadable
      · exact absurd rfl (hnot detail)
  · exact out_of_turn ..

/-- Both ways of editing the mapping. -/
theorem of_edit (s : Session) (a : Action) (quiet : a.reads = false)
    (change : Draft → Except ImportError Mapping)
    (fits : ∀ d mapping, change d = .ok mapping →
      Mapping.Fits s.mode.fields d.table.headers d.mapping →
        Mapping.Fits s.mode.fields d.table.headers mapping) :
    Transition s a ((s.edit change).map id (·.map Answer.problems)).1
      ((s.edit change).map id (·.map Answer.problems)).2 := by
  simp only [Session.edit]
  split
  · rename_i d hreview
    split
    · rename_i mapping hchange
      exact .edit hreview (fits d mapping hchange)
    · exact .refuse (by simp [quiet])
  · exact out_of_turn ..

theorem of_begin (s : Session) :
    Transition s .begin (s.perform .begin).1 (s.perform .begin).2 := by
  simp only [perform, Session.begin]
  split
  · rename_i d hreview
    split
    · rename_i hnone
      exact .begin hreview hnone
    · exact .refuse fun _ => rfl
  · exact out_of_turn ..

theorem of_payloads (s : Session) (lookup : List LookupEntry) :
    Transition s (.payloads lookup) (s.perform (.payloads lookup)).1
      (s.perform (.payloads lookup)).2 := by
  simp only [perform, payloads]
  split
  · rename_i d hsubmitting
    exact .build hsubmitting
  · exact out_of_turn ..

theorem of_abort (s : Session) :
    Transition s .abort (s.perform .abort).1 (s.perform .abort).2 := by
  simp only [perform, Session.abort]
  split
  · rename_i d hsubmitting
    exact .abort hsubmitting
  · exact out_of_turn ..

theorem of_complete (s : Session) (summary : Summary) :
    Transition s (.complete summary) (s.perform (.complete summary)).1
      (s.perform (.complete summary)).2 := by
  simp only [perform, Session.complete]
  split
  · rename_i d hsubmitting
    exact .complete hsubmitting
  · exact out_of_turn ..

theorem of_cancel (s : Session) :
    Transition s .cancel (s.perform .cancel).1 (s.perform .cancel).2 := by
  simp only [perform, cancel]
  split
  · exact out_of_turn ..
  · exact out_of_turn ..
  · exact .clear (.inl rfl)

theorem of_reset (s : Session) :
    Transition s .reset (s.perform .reset).1 (s.perform .reset).2 := by
  simp only [perform, reset]
  split
  · exact .clear (.inr rfl)
  · exact .clear (.inr rfl)
  · exact out_of_turn ..

end Transition

/-- There is nothing else that an action can do. -/
theorem transition_perform (s : Session) (a : Action) :
    Transition s a (s.perform a).1 (s.perform a).2 := by
  cases a with
  | selectFile name content => exact .of_selectFile s name content
  | decode => exact .of_decode s
  | chooseSheet number => exact .of_chooseSheet s number
  | assign header target => exact .of_edit s _ rfl _ fun d mapping hm fits => fits.assign hm
  | replaceMapping mapping =>
    refine .of_edit s _ rfl _ fun d _ hm _ => ?_
    obtain ⟨rfl, fits⟩ := Mapping.replace_eq_ok.1 hm
    exact fits
  | begin => exact .of_begin s
  | payloads lookup => exact .of_payloads s lookup
  | abort => exact .of_abort s
  | complete summary => exact .of_complete s summary
  | cancel => exact .of_cancel s
  | reset => exact .of_reset s

end SheetIntake.Session
