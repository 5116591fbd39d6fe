import SheetIntake.Proofs.Mapping.Edits

/-! # The last edit wins

    An edit of one column can take the target of another one away, so what a column goes to in
    the end depends on the edits of all columns.  But it depends on them in one way only: the
    last edit of a column decides, unless a later edit gives the same target to another column
    (`Mapping.LastEditWins`).

    One edit sets its own column (`assign_own`) and leaves of any other what `keptThrough` says
    (`assign_other`).  The run follows by induction on the edits (`kept_of_untouched`): those
    after the last edit of a column are edits of other columns throughout. -/

namespace SheetIntake.Mapping

variable {fields : List TargetField} {m m' : Mapping} {c e : ColumnMapping}
  {edits : List ColumnMapping}

/-- What is left of the target of a column when other columns are edited: nothing, if one of them
is given it. -/
def keptThrough (edits : List ColumnMapping) (target : Option String) : Option String :=
  if ∃ e ∈ edits, (trimmedEntry e).target = target then none else target

@[simp] theorem keptThrough_nil (target : Option String) : keptThrough [] target = target := by
  simp [keptThrough]

@[simp] theorem keptThrough_none (edits : List ColumnMapping) : keptThrough edits none = none := by
  simp [keptThrough]

theorem keptThrough_cons (e : ColumnMapping) (edits : List ColumnMapping)
    (target : Option String) :
    keptThrough (e :: edits) target =
      keptThrough edits (if target = (trimmedEntry e).target then none else target) := by
  by_cases hgiven : target = (trimmedEntry e).target
  · rw [if_pos hgiven, keptThrough_none, keptThrough,
      if_pos ⟨e, List.mem_cons_self .., hgiven.symm⟩]
  · rw [if_neg hgiven]
    simp [keptThrough, Ne.symm hgiven]

/-! ## One edit -/

theorem assign_own (h : assign fields m e.header e.target = .ok m') : trimmedEntry e ∈ m' := by
  obtain ⟨-, index, hindex, rfl⟩ := assign_eq_ok.1 h
  obtain ⟨hi, hheader, -⟩ := List.findIdx?_eq_some_iff_getElem.1 hindex
  have hself := mem_setTarget_self hi (e.target.bind Text.trimmed?)
  rwa [eq_of_beq hheader] at hself

theorem assign_other (h : assign fields m e.header e.target = .ok m') (hc : c ∈ m)
    (hother : e.header ≠ c.header) :
    ⟨c.header, if c.target = (trimmedEntry e).target then none else c.target⟩ ∈ m' := by
  obtain ⟨-, index, hindex, rfl⟩ := assign_eq_ok.1 h
  obtain ⟨hi, hheader, -⟩ := List.findIdx?_eq_some_iff_getElem.1 hindex
  refine mem_setTarget_other hc hi ?_ _
  rw [eq_of_beq hheader]
  exact hother.symm

/-! ## All edits -/

theorem Fits.assignAll {headers : List String} (fits : Fits fields headers m)
    (h : m.assignAll fields edits = .ok m') : Fits fields headers m' := by
  induction edits generalizing m with
  | nil =>
    obtain rfl := Except.ok.inj h
    exact fits
  | cons e es ih =>
    obtain ⟨m₁, hassign, hrest⟩ := assignAll_cons_eq_ok.1 h
    exact ih (fits.assign hassign) hrest

/-- A column that is not edited keeps its target as long as no other column is given it. -/
theorem kept_of_untouched (h : m.assignAll fields edits = .ok m') (hc : c ∈ m)
    (untouched : ∀ e ∈ edits, e.header ≠ c.header) :
    ⟨c.header, keptThrough edits c.target⟩ ∈ m' := by
  induction edits generalizing m c with
  | nil =>
    obtain rfl := Except.ok.inj h
    simpa using hc
  | cons e es ih =>
    obtain ⟨m₁, hassign, hrest⟩ := assignAll_cons_eq_ok.1 h
    obtain ⟨hother, hothers⟩ := List.forall_mem_cons.1 untouched
    rw [keptThrough_cons]
    exact ih hrest (assign_other hassign hc hother) hothers

/-- A column that is not edited any more keeps the target of its last edit just so. -/
theorem kept_of_last_edit {before later : List ColumnMapping}
    (h : m.assignAll fields (before ++ e :: later) = .ok m')
    (last : ∀ l ∈ later, l.header ≠ e.header) :
    ⟨e.header, keptThrough later (trimmedEntry e).target⟩ ∈ m' := by
  obtain ⟨m₁, -, hrest⟩ := assignAll_append_eq_ok.1 h
  obtain ⟨m₂, hassign, hlater⟩ := assignAll_cons_eq_ok.1 hrest
  exact kept_of_untouched hlater (assign_own hassign) last

/-- How the columns of a mapping follow from those that have been edited. -/
structure LastEditWins (m : Mapping) (edits : List ColumnMapping) (m' : Mapping) : Prop where
  /-- The columns and their order never change. -/
  columns : m'.headers = m.headers
  /-- A column that has been edited has the trimmed target of its last edit, unless that has been
  given to another column since. -/
  edited : ∀ c ∈ m', ∀ before e later, edits = before ++ e :: later → e.header = c.header →
    (∀ l ∈ later, l.header ≠ c.header) → c.target = keptThrough later (trimmedEntry e).target
  /-- A column that has never been edited has its old target, unless that has been given to
  another column. -/
  untouched : ∀ c ∈ m', ∀ old ∈ m, old.header = c.header →
    (∀ e ∈ edits, e.header ≠ c.header) → c.target = keptThrough edits old.target

/-- Whatever edits a mapping of distinct columns to distinct fields takes over, it stays one, and
of the edits of a column the last one wins. -/
theorem last_edit_wins {mode : Mode} {m m' : Mapping} {edits : List ColumnMapping}
    (distinct : m.headers.Nodup) (fits : Fits mode.fields m.headers m)
    (accepted : m.assignAll mode.fields edits = .ok m') :
    Fits mode.fields m.headers m' ∧ LastEditWins m edits m' := by
  have hfits : Fits mode.fields m.headers m' := fits.assignAll accepted
  have hdistinct : m'.headers.Nodup := hfits.columns ▸ distinct
  refine ⟨hfits, hfits.columns, ?_, ?_⟩
  · rintro c hc before e later rfl hheader hlast
    have hkept := kept_of_last_edit accepted (hheader ▸ hlast)
    rw [eq_of_header_eq hdistinct hc hkept hheader.symm]
  · rintro c hc old hold hheader huntouched
    have hkept := kept_of_untouched accepted hold (hheader ▸ huntouched)
    rw [eq_of_header_eq hdistinct hc hkept hheader.symm]

/-- A field goes from column to column, one column is edited twice and one is never edited. -/
def Sample.history : List ColumnMapping :=
  [⟨"Title", some "code"⟩, ⟨"Town", some " name "⟩, ⟨"Title", some "city"⟩, ⟨"Key", some "code"⟩,
    ⟨"Town", some "  "⟩]

def Sample.first : Mapping :=
  [⟨"Title", some "name"⟩, ⟨"Town", some "city"⟩, ⟨"Key", none⟩, ⟨"No.", some "code"⟩]

def Sample.last : Mapping :=
  [⟨"Title", some "city"⟩, ⟨"Town", none⟩, ⟨"Key", some "code"⟩, ⟨"No.", none⟩]

theorem last_edits_of_sample :
    Sample.first.headers.Nodup ∧
      Sample.first.assignAll Mode.properties.fields Sample.history = .ok Sample.last ∧
      Fits Mode.properties.fields Sample.first.headers Sample.last ∧
      LastEditWins Sample.first Sample.history Sample.last :=
  have hdistinct : Sample.first.headers.Nodup := by decide
  have haccepted : Sample.first.assignAll Mode.properties.fields Sample.history =
      .ok Sample.last := by
    decide +kernel
  ⟨hdistinct, haccepted, last_edit_wins hdistinct ⟨rfl, by decide, by decide⟩ haccepted⟩

end SheetIntake.Mapping
