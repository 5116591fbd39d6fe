import Mathlib.Data.List.Nodup
import SheetIntake.Proofs.Mapping

/-! # Editing column by column

    A list that is accepted as a whole can be entered one column at a time, too, in any order.
    An edit takes its field away from another column, so what stands in between depends on the
    order.  But columns that agree with the list already are never spoiled: an entry of the list
    gives another column its own field only if the list names that field twice
    (`assign_of_fits`).  So the columns that agree with it become more with every edit, and at
    the end they are all (`assignAll_of_fits`), whatever the mapping was at first. -/

namespace SheetIntake.Mapping

variable {fields : List TargetField} {headers : List String} {m list : Mapping}
  {c e : ColumnMapping}

/-! ## Entries of a mapping with distinct columns -/

theorem eq_of_header_eq (h : m.headers.Nodup) (hc : c ∈ m) (he : e ∈ m)
    (heq : c.header = e.header) : c = e :=
  List.inj_on_of_nodup_map h hc he heq

/-- Two columns of a mapping that fits never go to the same field. -/
theorem Fits.eq_of_target_eq {key : String} (h : Fits fields headers m) (hc : c ∈ m) (he : e ∈ m)
    (hckey : c.target = some key) (hekey : e.target = some key) : c = e := by
  obtain ⟨i, hi, rfl⟩ := List.mem_iff_getElem.1 hc
  obtain ⟨j, hj, rfl⟩ := List.mem_iff_getElem.1 he
  have hij : i = j := nodup_targets_iff.1 h.distinct i j key
    (targetAt_eq_some.2 ⟨hi, hckey⟩) (targetAt_eq_some.2 ⟨hj, hekey⟩)
  subst hij
  rfl

/-- A mapping that has all entries of another one with the same columns is that one. -/
theorem eq_of_forall_mem (hheaders : m.headers = list.headers) (distinct : list.headers.Nodup)
    (h : ∀ e ∈ list, e ∈ m) : m = list := by
  have hlength : m.length = list.length := by
    simpa [Mapping.headers] using congrArg List.length hheaders
  refine List.ext_getElem hlength fun i hi hi' => ?_
  have hmem : list[i] ∈ m := h _ (List.getElem_mem hi')
  refine eq_of_header_eq (hheaders ▸ distinct) (List.getElem_mem hi) hmem ?_
  -- The column at a place is the same in both.
  have hcolumn : m.headers[i]? = list.headers[i]? := congrArg (·[i]?) hheaders
  simpa [Mapping.headers, hi, hi'] using hcolumn

/-! ## One edit -/

theorem mem_setTarget_self {index : Nat} (hi : index < m.length) (target : Option String) :
    ⟨m[index].header, target⟩ ∈ m.setTarget index target := by
  refine List.mem_iff_getElem.2 ⟨index, by simpa [setTarget] using hi, ?_⟩
  simp [setTarget]

/-- Another column loses its target if that is given away, and is left alone otherwise. -/
theorem mem_setTarget_other {index : Nat} (he : e ∈ m) (hi : index < m.length)
    (hheader : e.header ≠ m[index].header) (target : Option String) :
    ⟨e.header, if e.target = target then none else e.target⟩ ∈ m.setTarget index target := by
  obtain ⟨i, hlt, rfl⟩ := List.mem_iff_getElem.1 he
  refine List.mem_iff_getElem.2 ⟨i, by simpa [setTarget] using hlt, ?_⟩
  have hne : i ≠ index := by
    rintro rfl
    exact hheader rfl
  simp only [setTarget, List.getElem_mapIdx]
  rw [if_neg hne]
  obtain ⟨header, kept⟩ := m[i]
  cases target with
  | none => cases kept <;> rfl
  | some key => by_cases hsame : kept = some key <;> simp [hsame]

/-- An edit leaves other columns alone unless they have its field. -/
theorem mem_setTarget_of_ne {index : Nat} {target : Option String} (he : e ∈ m)
    (hi : index < m.length) (hheader : e.header ≠ m[index].header)
    (hfree : target = none ∨ e.target ≠ target) : e ∈ m.setTarget index target := by
  obtain ⟨header, kept⟩ := e
  have hother := mem_setTarget_other he hi hheader target
  have hkept : (if kept = target then none else kept) = kept := by
    rw [ite_eq_right_iff]
    rintro rfl
    exact (hfree.resolve_right (not_not.2 rfl)).symm
  rwa [hkept] at hother

/-- An entry of a list that fits can be entered.  Its column agrees with the list then, and so do
all columns that did so before. -/
theorem assign_of_fits (hfits : Fits fields headers (list.map trimmedEntry))
    (distinct : headers.Nodup) (hm : m.headers = headers) (hc : c ∈ list) :
    ∃ m', assign fields m c.header c.target = .ok m' ∧ m'.headers = headers ∧
      trimmedEntry c ∈ m' ∧ ∀ e ∈ list.map trimmedEntry, e ∈ m → e ∈ m' := by
  have hentry : trimmedEntry c ∈ list.map trimmedEntry := List.mem_map_of_mem hc
  have hknown : ∀ key, c.target.bind Text.trimmed? = some key →
      key ∈ fields.map TargetField.key := by
    intro key hkey
    exact hfits.known key (List.mem_filterMap.2 ⟨_, hentry, hkey⟩)
  -- The columns of the mapping are those of the list, so the entry has its column in it.
  have hcolumn : c.header ∈ m.headers := by
    rw [hm, ← hfits.columns, headers_map_trimmedEntry]
    exact List.mem_map_of_mem hc
  obtain ⟨e, he, heq⟩ := List.mem_map.1 hcolumn
  obtain ⟨index, hindex⟩ : ∃ index, (m.findIdx? fun e => e.header == c.header) = some index := by
    rw [← Option.isSome_iff_exists, List.findIdx?_isSome, List.any_eq_true]
    exact ⟨e, he, beq_iff_eq.2 heq⟩
  obtain ⟨hi, hheader, -⟩ := List.findIdx?_eq_some_iff_getElem.1 hindex
  have hheader : m[index].header = c.header := eq_of_beq hheader
  have hself : trimmedEntry c ∈ m.setTarget index (c.target.bind Text.trimmed?) := by
    have hmem := mem_setTarget_self hi (c.target.bind Text.trimmed?)
    rwa [hheader] at hmem
  refine ⟨_, assign_eq_ok.2 ⟨hknown, index, hindex, rfl⟩, ?_, hself, ?_⟩
  · rw [headers_setTarget, hm]
  · intro e he hem
    by_cases hsame : e.header = c.header
    · -- The list has only one entry for this column.
      have hdistinct : (Mapping.headers (list.map trimmedEntry)).Nodup := hfits.columns ▸ distinct
      rwa [eq_of_header_eq hdistinct he hentry hsame]
    · refine mem_setTarget_of_ne hem hi (by rwa [hheader]) ?_
      cases hkey : c.target.bind Text.trimmed? with
      | none => exact .inl rfl
      | some key =>
        -- Nor has it another column for this field.
        refine .inr fun htarget => hsame ?_
        rw [hfits.eq_of_target_eq he hentry htarget hkey]
        rfl

/-! ## All edits -/

/-- Enters the entries of a list, one after the other. -/
def assignAll (fields : List TargetField) (m : Mapping) :
    List ColumnMapping → Except ImportError Mapping
  | [] => .ok m
  | c :: cs => (m.assign fields c.header c.target).bind fun m' => m'.assignAll fields cs

theorem assignAll_cons_eq_ok {edits : List ColumnMapping} {m' : Mapping} :
    m.assignAll fields (c :: edits) = .ok m' ↔
      ∃ m₁, m.assign fields c.header c.target = .ok m₁ ∧ m₁.assignAll fields edits = .ok m' := by
  rw [assignAll]
  cases m.assign fields c.header c.target <;> simp [Except.bind]

theorem assignAll_append_eq_ok {before later : List ColumnMapping} {m' : Mapping} :
    m.assignAll fields (before ++ later) = .ok m' ↔
      ∃ m₁, m.assignAll fields before = .ok m₁ ∧ m₁.assignAll fields later = .ok m' := by
  induction before generalizing m with
  | nil => simp [assignAll]
  | cons c cs ih =>
    simp only [List.cons_append, assignAll_cons_eq_ok, ih]
    constructor
    · rintro ⟨m₁, hassign, m₂, hbefore, hlater⟩
      exact ⟨m₂, ⟨m₁, hassign, hbefore⟩, hlater⟩
    · rintro ⟨m₂, ⟨m₁, hassign, hbefore⟩, hlater⟩
      exact ⟨m₁, hassign, m₂, hbefore, hlater⟩

/-- Any entries of a list that fits can be entered, and what agrees with the list stays. -/
theorem assignAll_of_mem (hfits : Fits fields headers (list.map trimmedEntry))
    (distinct : headers.Nodup) {edits : List ColumnMapping} (hm : m.headers = headers)
    (hedits : ∀ c ∈ edits, c ∈ list) :
    ∃ m', m.assignAll fields edits = .ok m' ∧ m'.headers = headers ∧
      (∀ e ∈ list.map trimmedEntry, e ∈ m → e ∈ m') ∧ ∀ c ∈ edits, trimmedEntry c ∈ m' := by
  induction edits generalizing m with
  | nil => exact ⟨m, rfl, hm, fun _ _ he => he, by simp⟩
  | cons c cs ih =>
    obtain ⟨hc, hcs⟩ := List.forall_mem_cons.1 hedits
    obtain ⟨m₁, hassign, hm₁, hentry, hkept⟩ := assign_of_fits hfits distinct hm hc
    obtain ⟨m', hall, hm', hkept', hentries⟩ := ih hm₁ hcs
    refine ⟨m', assignAll_cons_eq_ok.2 ⟨m₁, hassign, hall⟩, hm',
      fun e he hem => hkept' e he (hkept e he hem), ?_⟩
    rw [List.forall_mem_cons]
    exact ⟨hkept' _ (List.mem_map_of_mem hc) hentry, hentries⟩

/-- To enter all entries of a list, in whatever order and whatever stood there before, comes to
the same as to accept the list as a whole. -/
theorem assignAll_of_replace {m' : Mapping} (h : replace fields headers list = .ok m')
    (distinct : headers.Nodup) (hm : m.headers = headers) {edits : List ColumnMapping}
    (perm : edits.Perm list) : m.assignAll fields edits = .ok m' := by
  obtain ⟨rfl, hfits⟩ := replace_eq_ok.1 h
  obtain ⟨m', hall, hm', -, hentries⟩ :=
    assignAll_of_mem hfits distinct hm fun c hc => perm.mem_iff.1 hc
  rw [hall, Except.ok.injEq]
  refine eq_of_forall_mem (hm'.trans hfits.columns.symm) (hfits.columns ▸ distinct) fun e he => ?_
  obtain ⟨c, hc, rfl⟩ := List.mem_map.1 he
  exact hentries c (perm.mem_iff.2 hc)

end SheetIntake.Mapping
