import SheetIntake.Mapping

/-! # Mappings that fit a file

    A mapping fits a file when it has exactly the columns of the file, in file order, and
    sends them to distinct fields of the mode (`Mapping.Fits`).  The proposal fits
    (`Mapping.fits_propose`), and so does whatever an edit gives (`Mapping.Fits.assign`,
    `Mapping.replace_eq_ok`).  For a whole new list more is known: it is accepted exactly if it
    fits once its targets are trimmed. -/

namespace SheetIntake

/-! ## Fields found by a header -/

theorem Header.match?_mem {fields : List TargetField} {header key : String}
    (h : match? fields header = some key) : key ∈ fields.map TargetField.key := by
  unfold match? at h
  simp only at h
  split at h
  · cases h
  · cases hname : byName? fields (normalForm header) with
    | some k =>
      obtain rfl : k = key := by simpa [hname] using h
      obtain ⟨f, hf, rfl⟩ := Option.map_eq_some_iff.1 hname
      exact List.mem_map_of_mem (List.mem_of_find?_eq_some hf)
    | none =>
      have halias : byAlias? fields (normalForm header) = some key := by simpa [hname] using h
      obtain ⟨⟨k, words⟩, hentry, rfl⟩ := Option.map_eq_some_iff.1 halias
      -- An alias counts only if its field belongs to the mode.
      have hfield := List.find?_some hentry
      obtain ⟨f, hf, hkey⟩ := List.any_eq_true.1 (Bool.and_eq_true_iff.1 hfield).1
      exact List.mem_map.2 ⟨f, hf, eq_of_beq hkey⟩

namespace Mapping

variable {fields : List TargetField} {taken : List String} {header key : String} {m : Mapping}

theorem isField_iff : isField fields key = true ↔ key ∈ fields.map TargetField.key := by
  simp [isField, List.any_eq_true]

@[simp] theorem headers_cons (c : ColumnMapping) (m : Mapping) :
    headers (c :: m) = c.header :: headers m := rfl

@[simp] theorem targets_take (header key : String) (m : Mapping) :
    targets (⟨header, some key⟩ :: m) = key :: targets m := rfl

/-! ## Distinct fields -/

/-- The columns go to distinct fields, none of them taken already. -/
structure Admissible (fields : List TargetField) (taken : List String) (m : Mapping) : Prop where
  distinct : m.targets.Nodup
  free : ∀ key ∈ m.targets, key ∉ taken
  known : ∀ key ∈ m.targets, key ∈ fields.map TargetField.key

theorem admissible_nil : Admissible fields taken [] := by
  constructor <;> simp [targets]

theorem admissible_skip_iff :
    Admissible fields taken (⟨header, none⟩ :: m) ↔ Admissible fields taken m :=
  ⟨fun ⟨hd, hf, hk⟩ => ⟨hd, hf, hk⟩, fun ⟨hd, hf, hk⟩ => ⟨hd, hf, hk⟩⟩

theorem admissible_take_iff :
    Admissible fields taken (⟨header, some key⟩ :: m) ↔
      key ∈ fields.map TargetField.key ∧ key ∉ taken ∧ Admissible fields (key :: taken) m := by
  constructor
  · rintro ⟨hd, hf, hk⟩
    simp only [targets_take, List.nodup_cons, List.forall_mem_cons] at hd hf hk
    refine ⟨hk.1, hf.1, hd.2, fun k hmem => ?_, hk.2⟩
    rintro (_ | ⟨_, htaken⟩)
    · exact hd.1 hmem
    · exact hf.2 k hmem htaken
  · rintro ⟨hknown, hfree, hd, hf, hk⟩
    have hnew : key ∉ m.targets := fun hmem => hf key hmem (List.mem_cons_self ..)
    refine ⟨List.nodup_cons.2 ⟨hnew, hd⟩, ?_, List.forall_mem_cons.2 ⟨hknown, hk⟩⟩
    exact List.forall_mem_cons.2
      ⟨hfree, fun k hmem htaken => hf k hmem (List.mem_cons_of_mem _ htaken)⟩

/-! ## Proposals -/

theorem headers_proposeFrom (fields : List TargetField) (taken headers : List String) :
    (proposeFrom fields taken headers).headers = headers := by
  induction headers generalizing taken with
  | nil => rfl
  | cons h hs ih =>
    unfold proposeFrom
    split
    · split <;> simp [ih]
    · simp [ih]

theorem admissible_proposeFrom (fields : List TargetField) (taken headers : List String) :
    Admissible fields taken (proposeFrom fields taken headers) := by
  induction headers generalizing taken with
  | nil => exact admissible_nil
  | cons h hs ih =>
    unfold proposeFrom
    split
    · rename_i key hmatch
      split
      · exact admissible_skip_iff.2 (ih taken)
      · rename_i hfree
        exact admissible_take_iff.2
          ⟨Header.match?_mem hmatch, by simpa using hfree, ih (key :: taken)⟩
    · exact admissible_skip_iff.2 (ih taken)

/-! ## Mappings of the columns of a file -/

/-- A mapping of exactly the columns of a file, in file order, to distinct fields. -/
structure Fits (fields : List TargetField) (headers : List String) (m : Mapping) : Prop where
  columns : m.headers = headers
  distinct : m.targets.Nodup
  known : ∀ key ∈ m.targets, key ∈ fields.map TargetField.key

theorem fits_iff {headers : List String} :
    Fits fields headers m ↔ m.headers = headers ∧ Admissible fields [] m :=
  ⟨fun ⟨hc, hd, hk⟩ => ⟨hc, hd, by simp, hk⟩, fun ⟨hc, hd, _, hk⟩ => ⟨hc, hd, hk⟩⟩

theorem fits_propose (fields : List TargetField) (headers : List String) :
    Fits fields headers (propose fields headers) :=
  fits_iff.2 ⟨headers_proposeFrom fields [] headers, admissible_proposeFrom fields [] headers⟩

/-! ## One column

    An edit of one column is followed by positions: a field is the target of one column at most
    (`nodup_targets_iff`), and where the targets of an edited mapping come from is known for
    every position (`targetAt_setTarget`). -/

/-- The target of the column at an index. -/
def targetAt (m : Mapping) (i : Nat) : Option String := m[i]?.bind ColumnMapping.target

theorem targetAt_eq_some {i : Nat} :
    m.targetAt i = some key ↔ ∃ hi : i < m.length, m[i].target = some key := by
  simp only [targetAt, Option.bind_eq_some_iff, List.getElem?_eq_some_iff]
  exact ⟨fun ⟨_, ⟨hi, rfl⟩, hkey⟩ => ⟨hi, hkey⟩, fun ⟨hi, hkey⟩ => ⟨_, ⟨hi, rfl⟩, hkey⟩⟩

theorem mem_targets_iff : key ∈ m.targets ↔ ∃ i, m.targetAt i = some key := by
  rw [targets, List.mem_filterMap]
  simp only [List.mem_iff_getElem, targetAt_eq_some]
  exact ⟨fun ⟨_, ⟨i, hi, rfl⟩, hkey⟩ => ⟨i, hi, hkey⟩,
    fun ⟨i, hi, hkey⟩ => ⟨_, ⟨i, hi, rfl⟩, hkey⟩⟩

theorem nodup_targets_iff :
    m.targets.Nodup ↔
      ∀ i j key, m.targetAt i = some key → m.targetAt j = some key → i = j := by
  rw [List.Nodup, targets, List.pairwise_filterMap, List.pairwise_iff_getElem]
  simp only [targetAt_eq_some]
  constructor
  · rintro h i j key ⟨hi, hkey⟩ ⟨hj, hkey'⟩
    rcases Nat.lt_trichotomy i j with hlt | heq | hgt
    · exact absurd rfl (h i j hi hj hlt key hkey key hkey')
    · exact heq
    · exact absurd rfl (h j i hj hi hgt key hkey' key hkey)
  · rintro h i j hi hj hlt key hkey key' hkey' rfl
    have := h i j key ⟨hi, hkey⟩ ⟨hj, hkey'⟩
    omega

theorem headers_setTarget (m : Mapping) (index : Nat) (target : Option String) :
    (m.setTarget index target).headers = m.headers := by
  refine List.ext_getElem (by simp [headers, setTarget]) fun i _ _ => ?_
  simp only [headers, setTarget, List.getElem_map, List.getElem_mapIdx]
  split
  · rfl
  · split <;> rfl

/-- A column has the target that it has been given, or the one that it had, unless that has
been given to another. -/
theorem targetAt_setTarget {index i : Nat} {target : Option String}
    (h : (m.setTarget index target).targetAt i = some key) :
    (i = index ∧ target = some key) ∨ (m.targetAt i = some key ∧ target ≠ some key) := by
  obtain ⟨hi, hkey⟩ := targetAt_eq_some.1 h
  simp only [setTarget, List.length_mapIdx] at hi
  simp only [setTarget, List.getElem_mapIdx] at hkey
  split at hkey
  · rename_i heq
    exact .inl ⟨heq, hkey⟩
  · split at hkey
    · cases hkey
    · rename_i hother
      refine .inr ⟨targetAt_eq_some.2 ⟨hi, hkey⟩, ?_⟩
      rintro rfl
      simp [hkey] at hother

theorem Fits.setTarget {headers : List String} (h : Fits fields headers m) (index : Nat)
    {target : Option String} (known : ∀ key, target = some key → key ∈ fields.map TargetField.key) :
    Fits fields headers (m.setTarget index target) := by
  refine ⟨(headers_setTarget m index target).trans h.columns, ?_, ?_⟩
  · rw [nodup_targets_iff]
    intro i j key hi hj
    rcases targetAt_setTarget hi with ⟨rfl, hgiven⟩ | ⟨hi', hkept⟩
    · rcases targetAt_setTarget hj with ⟨rfl, -⟩ | ⟨-, hkept⟩
      · rfl
      · exact absurd hgiven hkept
    · rcases targetAt_setTarget hj with ⟨-, hgiven⟩ | ⟨hj', -⟩
      · exact absurd hgiven hkept
      · exact nodup_targets_iff.1 h.distinct i j key hi' hj'
  · intro key hkey
    obtain ⟨i, hi⟩ := mem_targets_iff.1 hkey
    rcases targetAt_setTarget hi with ⟨-, hgiven⟩ | ⟨hi', -⟩
    · exact known key hgiven
    · exact h.known key (mem_targets_iff.2 ⟨i, hi'⟩)

/-- Editing one column succeeds exactly for a column of the mapping and a field of the mode. -/
theorem assign_eq_ok {target : Option String} {m' : Mapping} :
    assign fields m header target = .ok m' ↔
      (∀ key, target.bind Text.trimmed? = some key → key ∈ fields.map TargetField.key) ∧
      ∃ index, (m.findIdx? fun c => c.header == header) = some index ∧
        m' = m.setTarget index (target.bind Text.trimmed?) := by
  unfold assign
  simp only
  split
  · rename_i key hkey
    obtain ⟨htarget, hunknown⟩ := Option.filter_eq_some_iff.1 hkey
    simp only [reduceCtorEq, false_iff]
    rintro ⟨hknown, -⟩
    simp [isField_iff.2 (hknown key htarget)] at hunknown
  · rename_i hfilter
    have hknown : ∀ key, target.bind Text.trimmed? = some key →
        key ∈ fields.map TargetField.key := by
      intro key htarget
      have := Option.filter_eq_none_iff.1 hfilter key htarget
      exact isField_iff.1 (by simpa using this)
    split
    · rename_i hindex
      simp [hindex]
    · rename_i index hindex
      simp only [hindex, Except.ok.injEq, Option.some.injEq, exists_eq_left']
      exact ⟨fun h => ⟨hknown, h.symm⟩, fun h => h.2.symm⟩

/-- A column that the file does not have, or a field that the mode does not have, is refused. -/
theorem assign_unknown {target : Option String}
    (h : header ∉ m.headers ∨
      ∃ key, target.bind Text.trimmed? = some key ∧ key ∉ fields.map TargetField.key) :
    ∃ e, assign fields m header target = .error e := by
  cases hm : assign fields m header target with
  | error e => exact ⟨e, rfl⟩
  | ok m' =>
    obtain ⟨hknown, index, hindex, -⟩ := assign_eq_ok.1 hm
    obtain hcolumn | ⟨key, hkey, hfield⟩ := h
    · obtain ⟨hlt, heq, -⟩ := List.findIdx?_eq_some_iff_getElem.1 hindex
      refine absurd ?_ hcolumn
      rw [← eq_of_beq heq]
      exact List.mem_map_of_mem (List.getElem_mem hlt)
    · exact absurd (hknown key hkey) hfield

theorem Fits.assign {headers : List String} {target : Option String} {m' : Mapping}
    (h : Fits fields headers m) (hm : assign fields m header target = .ok m') :
    Fits fields headers m' := by
  obtain ⟨hknown, index, -, rfl⟩ := assign_eq_ok.1 hm
  exact h.setTarget index hknown

/-! ## Whole lists -/

/-- The entry without the blanks around its target.  A blank target is none. -/
def trimmedEntry (c : ColumnMapping) : ColumnMapping :=
  { c with target := c.target.bind Text.trimmed? }

/-- A list passes the check exactly if it is admissible once it is trimmed. -/
theorem checked_eq_ok {m' : Mapping} :
    checked fields taken m = .ok m' ↔
      m' = m.map trimmedEntry ∧ Admissible fields taken (m.map trimmedEntry) := by
  induction m generalizing taken m' with
  | nil => simp [checked, admissible_nil, eq_comm]
  | cons c cs ih =>
    have map_eq_ok : ∀ (e : ColumnMapping) (seen : List String),
        ((checked fields seen cs).map (e :: ·) = .ok m') ↔
          m' = e :: cs.map trimmedEntry ∧ Admissible fields seen (cs.map trimmedEntry) := by
      intro e seen
      cases hcs : checked fields seen cs with
      | error _ =>
        simp only [Except.map, reduceCtorEq, false_iff]
        rintro ⟨-, hadm⟩
        simpa [hcs] using ih.2 ⟨rfl, hadm⟩
      | ok rest =>
        obtain ⟨rfl, hadm⟩ := ih.1 hcs
        simp [Except.map, hadm, eq_comm]
    unfold checked
    split
    · rename_i hblank
      have hentry : trimmedEntry c = ⟨c.header, none⟩ := by simp [trimmedEntry, hblank]
      rw [map_eq_ok, List.map_cons, hentry, admissible_skip_iff]
    · rename_i key hkey
      have hentry : trimmedEntry c = ⟨c.header, some key⟩ := by simp [trimmedEntry, hkey]
      rw [List.map_cons, hentry, admissible_take_iff, ← isField_iff]
      split
      · rename_i hunknown
        rw [Bool.not_eq_true'] at hunknown
        simp [hunknown]
      · rename_i hfield
        rw [Bool.not_eq_true', Bool.not_eq_false] at hfield
        split
        · rename_i hseen
          simp [List.contains_iff_mem.1 hseen]
        · rename_i hfree
          rw [List.contains_iff_mem] at hfree
          simp [map_eq_ok, hfield, hfree]

theorem headers_map_trimmedEntry (m : Mapping) : headers (m.map trimmedEntry) = m.headers := by
  simp [headers, trimmedEntry, Function.comp_def]

/-- A whole list is accepted exactly if it fits the file once it is trimmed. -/
theorem replace_eq_ok {headers : List String} {m' : Mapping} :
    replace fields headers m = .ok m' ↔
      m' = m.map trimmedEntry ∧ Fits fields headers (m.map trimmedEntry) := by
  rw [fits_iff, headers_map_trimmedEntry]
  unfold replace
  split
  · rename_i hcolumns
    simp [checked_eq_ok, hcolumns]
  · rename_i hcolumns
    simp [hcolumns]

/-- Whether an entry is out of place behind the entries `before` it: the file has another
column there or none at all, there is no such field, or an entry before it has the field. -/
def IsMisplaced (fields : List TargetField) (headers : List String) (before : Mapping)
    (c : ColumnMapping) : Prop :=
  headers[before.length]? ≠ some c.header ∨
    ∃ key, (trimmedEntry c).target = some key ∧
      (key ∉ fields.map TargetField.key ∨ ∃ b ∈ before, (trimmedEntry b).target = some key)

/-- An entry out of place has the whole list refused, wherever it stands. -/
theorem replace_misplaced {headers : List String} {before : Mapping} {c : ColumnMapping}
    (h : IsMisplaced fields headers before c) (behind : Mapping) :
    ∃ e, replace fields headers (before ++ c :: behind) = .error e := by
  cases hm : replace fields headers (before ++ c :: behind) with
  | error e => exact ⟨e, rfl⟩
  | ok m' =>
    obtain ⟨-, hfits⟩ := replace_eq_ok.1 hm
    have hcolumns := hfits.columns
    have hdistinct := hfits.distinct
    have hknown := hfits.known
    simp only [headers_map_trimmedEntry] at hcolumns
    simp only [targets, List.map_append, List.map_cons, List.filterMap_append] at hdistinct hknown
    obtain hcolumn | ⟨key, hkey, hfield | ⟨b, hb, hsame⟩⟩ := h
    · refine absurd ?_ hcolumn
      rw [← hcolumns]
      simp [Mapping.headers]
    · refine absurd (hknown key ?_) hfield
      exact List.mem_append_right _ (List.mem_filterMap.2 ⟨_, List.mem_cons_self .., hkey⟩)
    · obtain ⟨-, -, hapart⟩ := List.nodup_append.1 hdistinct
      refine absurd rfl (hapart key ?_ key ?_)
      · exact List.mem_filterMap.2 ⟨_, List.mem_map_of_mem hb, hsame⟩
      · exact List.mem_filterMap.2 ⟨_, List.mem_cons_self .., hkey⟩

/-! ## Validation -/

/-- Nothing is wrong with a mapping exactly if a column goes to every required field. -/
theorem problems_eq_nil_iff :
    problems fields m = [] ↔ ∀ f ∈ fields, f.required = true → f.key ∈ m.targets := by
  simp [problems, missing]

end Mapping

end SheetIntake
