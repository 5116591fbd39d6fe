import SheetIntake.Proofs.Mapping.Edits
import SheetIntake.Proofs.Session.Consistent

/-! # Editing a mapping in one go or column by column

    A whole list can replace the mapping of a session, or each of its entries can be assigned to
    its own column.  If the list is accepted, every one of these edits is accepted, too, in
    whatever order they are made, and they lead to the same session
    (`edits_agree_with_replacement`): each edit validates the mapping anew, so that at the end
    the messages are those of the list. -/

namespace SheetIntake.Session

variable {s : Session} {d : Draft}

/-- The edit that enters an entry of a list. -/
def entering (c : ColumnMapping) : Action := .assign c.header c.target

theorem assign_of_review {header : String} {target : Option String} {m : Mapping}
    (hreview : s.stage = .review d)
    (h : d.mapping.assign s.mode.fields header target = .ok m) :
    s.assign header target =
      ({ s with stage := .review (d.remapped s.mode m) },
        .ok (Mapping.problems s.mode.fields m)) := by
  simp only [assign, edit, hreview, h]
  rfl

theorem replaceMapping_of_review {list m : Mapping} (hreview : s.stage = .review d)
    (h : Mapping.replace s.mode.fields d.table.headers list = .ok m) :
    (s.replaceMapping list).1 = { s with stage := .review (d.remapped s.mode m) } := by
  simp only [replaceMapping, edit, hreview, h]

/-- Only a session under review accepts a list, and only one that fits its file. -/
theorem replaceMapping_eq_ok {list : Mapping} {messages : List String}
    (h : (s.replaceMapping list).2 = .ok messages) :
    ∃ d m, s.stage = .review d ∧
      Mapping.replace s.mode.fields d.table.headers list = .ok m := by
  unfold replaceMapping edit at h
  split at h
  · rename_i d hreview
    split at h
    · rename_i m hm
      exact ⟨d, m, hreview, hm⟩
    · cases h
  · cases h

/-- Every edit that enters one of the entries is accepted by the session that the ones before it
have left. -/
def Accepts (s : Session) (edits : List ColumnMapping) : Prop :=
  ∀ before c later, edits = before ++ c :: later →
    ∃ messages, ((s.after (before.map entering)).assign c.header c.target).2 = .ok messages

/-- A session takes over whatever edits its mapping takes over. -/
theorem after_entering {edits : List ColumnMapping} {m : Mapping}
    (hreview : s.stage = .review d)
    (hproblems : d.problems = Mapping.problems s.mode.fields d.mapping)
    (h : d.mapping.assignAll s.mode.fields edits = .ok m) :
    s.Accepts edits ∧
      s.after (edits.map entering) = { s with stage := .review (d.remapped s.mode m) } := by
  induction edits generalizing s d with
  | nil =>
    obtain rfl : d.mapping = m := Except.ok.inj h
    constructor
    · intro before c later hsplit
      simp at hsplit
    · have hsame : d.remapped s.mode d.mapping = d := by rw [Draft.remapped, ← hproblems]
      show s = _
      rw [hsame, ← hreview]
  | cons c cs ih =>
    obtain ⟨m₁, hassign, hrest⟩ := Mapping.assignAll_cons_eq_ok.1 h
    have hstep := assign_of_review hreview hassign
    have hafter : ∀ actions, s.after (entering c :: actions) =
        Session.after { s with stage := .review (d.remapped s.mode m₁) } actions := by
      intro actions
      rw [after_cons]
      show Session.after (s.assign c.header c.target).1 actions = _
      rw [hstep]
    obtain ⟨haccepts, hlast⟩ :=
      ih (s := { s with stage := .review (d.remapped s.mode m₁) }) rfl rfl hrest
    constructor
    · intro before e later hsplit
      cases before with
      | nil =>
        obtain ⟨rfl, rfl⟩ := List.cons.inj hsplit
        exact ⟨_, congrArg Prod.snd hstep⟩
      | cons b before =>
        obtain ⟨rfl, hrest⟩ := List.cons.inj hsplit
        rw [List.map_cons, hafter]
        exact haccepts before e later hrest
    · rw [List.map_cons, hafter, hlast]
      rfl

/-- Replacing the mapping of a session agrees with editing it column by column, in any order. -/
theorem edits_agree_with_replacement {s : Session} (reachable : s.Reachable)
    {list edits : Mapping} {messages : List String}
    (accepted : (s.replaceMapping list).2 = .ok messages) (perm : edits.Perm list) :
    s.Accepts edits ∧ s.after (edits.map entering) = (s.replaceMapping list).1 := by
  obtain ⟨mode, actions, rfl⟩ := reachable
  have hvalid := (valid_new mode).after actions
  obtain ⟨d, m, hreview, hreplace⟩ := replaceMapping_eq_ok accepted
  obtain ⟨htable, hmapping, hproblems⟩ :=
    hvalid.draft (by rw [draft?, hreview] : ((new mode).after actions).draft? = some d)
  have hall := Mapping.assignAll_of_replace hreplace htable.distinct hmapping.columns perm
  rw [replaceMapping_of_review hreview hreplace]
  exact after_entering hreview hproblems hall

/-- The sample as it is first reviewed. -/
def Sample.reviewed : Session := (new .properties).after (Sample.actions.take 3)

/-- One column takes its field away from the other, which is given another one. -/
def Sample.exchange : Mapping := [⟨"Title", some " city "⟩, ⟨"City", some "name"⟩]

theorem exchange_agrees :
    Sample.reviewed.mapping = [⟨"Title", none⟩, ⟨"City", some "city"⟩] ∧
      (Sample.reviewed.replaceMapping Sample.exchange).2 = .ok [] ∧
      Sample.reviewed.Accepts Sample.exchange.reverse ∧
      Sample.reviewed.after (Sample.exchange.reverse.map entering) =
        (Sample.reviewed.replaceMapping Sample.exchange).1 :=
  have haccepted : (Sample.reviewed.replaceMapping Sample.exchange).2 = .ok [] := by
    decide +kernel
  ⟨by decide +kernel, haccepted,
    edits_agree_with_replacement ⟨.properties, Sample.actions.take 3, rfl⟩ haccepted
      (List.reverse_perm Sample.exchange)⟩

end SheetIntake.Session
