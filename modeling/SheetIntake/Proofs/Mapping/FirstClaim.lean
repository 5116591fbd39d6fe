import SheetIntake.Proofs.Mapping.Keys

/-! # First claims

    The proposal goes through the columns from left to right and keeps the fields that are claimed.
    What comes out can be said without looking back: a field goes to the first column whose
    header matches it, and all other columns are skipped (`Mapping.FirstClaims`).  The induction
    is on the columns; what it carries along is that a field is still free exactly if no earlier
    header matches it (`Mapping.targetAt_proposeFrom`). -/

namespace SheetIntake.Mapping

variable {fields : List TargetField} {headers : List String} {key : String}

/-- The field that the header of the column at an index matches. -/
def matchAt (fields : List TargetField) (headers : List String) (i : Nat) : Option String :=
  headers[i]?.bind (Header.match? fields)

@[simp] theorem matchAt_cons_zero (fields : List TargetField) (h : String) (hs : List String) :
    matchAt fields (h :: hs) 0 = Header.match? fields h := by
  rw [matchAt, List.getElem?_cons_zero, Option.bind_some]

@[simp] theorem matchAt_cons_succ (fields : List TargetField) (h : String) (hs : List String)
    (i : Nat) : matchAt fields (h :: hs) (i + 1) = matchAt fields hs i := by
  rw [matchAt, List.getElem?_cons_succ, matchAt]

@[simp] theorem targetAt_nil (i : Nat) : targetAt [] i = none := rfl

@[simp] theorem targetAt_cons_zero (c : ColumnMapping) (m : Mapping) :
    targetAt (c :: m) 0 = c.target := rfl

@[simp] theorem targetAt_cons_succ (c : ColumnMapping) (m : Mapping) (i : Nat) :
    targetAt (c :: m) (i + 1) = m.targetAt i := rfl

/-! ## One pass over the columns -/

/-- The column at an index is the first one whose header matches a field. -/
def IsFirstClaim (fields : List TargetField) (headers : List String) (key : String) (i : Nat) :
    Prop :=
  matchAt fields headers i = some key ∧ ∀ j < i, matchAt fields headers j ≠ some key

theorem isFirstClaim_cons_zero (h : String) (hs : List String) :
    IsFirstClaim fields (h :: hs) key 0 ↔ Header.match? fields h = some key := by
  simp [IsFirstClaim]

theorem isFirstClaim_cons_succ (h : String) (hs : List String) (i : Nat) :
    IsFirstClaim fields (h :: hs) key (i + 1) ↔
      Header.match? fields h ≠ some key ∧ IsFirstClaim fields hs key i := by
  simp only [IsFirstClaim, Nat.forall_lt_succ_left, matchAt_cons_zero, matchAt_cons_succ]
  exact and_left_comm

/-- A column goes to a field if it claims it first and it was free before the pass. -/
theorem targetAt_proposeFrom {claimed : List String} {i : Nat} :
    (proposeFrom fields claimed headers).targetAt i = some key ↔
      key ∉ claimed ∧ IsFirstClaim fields headers key i := by
  induction headers generalizing claimed i with
  | nil =>
    show targetAt [] i = some key ↔ _
    simp [IsFirstClaim, matchAt]
  | cons h hs ih =>
    unfold proposeFrom
    cases hmatch : Header.match? fields h with
    | none =>
      cases i with
      | zero => simp [isFirstClaim_cons_zero, hmatch]
      | succ i => simp [isFirstClaim_cons_succ, hmatch, ih]
    | some k =>
      dsimp only
      split
      · rename_i hclaimed
        rw [List.contains_iff_mem] at hclaimed
        cases i with
        | zero =>
          simp only [targetAt_cons_zero, isFirstClaim_cons_zero, hmatch, reduceCtorEq, false_iff,
            Option.some.injEq]
          rintro ⟨hfree, rfl⟩
          exact hfree hclaimed
        | succ i =>
          rw [targetAt_cons_succ, isFirstClaim_cons_succ, hmatch, ih]
          -- A field that is still free is none that this column asks for.
          refine and_congr_right fun hfree => (and_iff_right ?_).symm
          rintro ⟨⟩
          exact hfree hclaimed
      · rename_i hfree
        rw [List.contains_iff_mem] at hfree
        cases i with
        | zero =>
          simp only [targetAt_cons_zero, isFirstClaim_cons_zero, hmatch, Option.some.injEq,
            iff_and_self]
          rintro rfl
          exact hfree
        | succ i =>
          rw [targetAt_cons_succ, isFirstClaim_cons_succ, hmatch, ih, List.mem_cons, not_or,
            ne_eq, Option.some.injEq, eq_comm (a := key), and_left_comm, and_assoc]

theorem targetAt_propose {i : Nat} :
    (propose fields headers).targetAt i = some key ↔ IsFirstClaim fields headers key i := by
  rw [propose, targetAt_proposeFrom]
  simp

/-! ## The assignment as a whole -/

/-- Columns are given fields by first claim. -/
structure FirstClaims (fields : List TargetField) (headers : List String) (m : Mapping) :
    Prop where
  /-- There is one entry for every column, in file order. -/
  columns : m.headers = headers
  /-- A column goes to the field that its header matches if no earlier header matches it. -/
  target_iff : ∀ i key, m.targetAt i = some key ↔ IsFirstClaim fields headers key i
  /-- It is skipped if its header matches none, or one that an earlier header matches. -/
  skipped_iff : ∀ i, m.targetAt i = none ↔
    ∀ key, matchAt fields headers i = some key → ∃ j < i, matchAt fields headers j = some key
  /-- What some header matches is the target of exactly one column. -/
  assigned : ∀ i key, matchAt fields headers i = some key → ∃! j, m.targetAt j = some key
  distinct : m.targets.Nodup
  known : ∀ key ∈ m.targets, key ∈ fields.map TargetField.key
  /-- A header that reads like the key or the label of a field gets it, or comes too late. -/
  named : ∀ f ∈ fields, ∀ name ∈ Header.names f, ∀ i header, headers[i]? = some header →
    Header.normalForm header = Header.normalForm name →
      m.targetAt i = some f.key ∨ ∃ j < i, matchAt fields headers j = some f.key

/-- Of the columns that claim a field one is the first. -/
theorem exists_isFirstClaim {i : Nat} (h : matchAt fields headers i = some key) :
    ∃ j ≤ i, IsFirstClaim fields headers key j := by
  have hclaimed : ∃ j, matchAt fields headers j = some key := ⟨i, h⟩
  exact ⟨Nat.find hclaimed, Nat.find_min' hclaimed h, Nat.find_spec hclaimed,
    fun j hj => Nat.find_min hclaimed hj⟩

/-- The proposal for a mode is the assignment by first claim, whatever the headers are. -/
theorem propose_by_first_claim (mode : Mode) (headers : List String) :
    FirstClaims mode.fields headers (propose mode.fields headers) := by
  have hfits : Fits mode.fields headers (propose mode.fields headers) := fits_propose _ _
  constructor
  case columns => exact hfits.columns
  case target_iff =>
    intro i key
    exact targetAt_propose
  case skipped_iff =>
    intro i
    rw [Option.eq_none_iff_forall_ne_some]
    simp only [ne_eq, targetAt_propose, IsFirstClaim, not_and, not_forall, not_not, exists_prop]
  case assigned =>
    intro i key hmatch
    obtain ⟨j, -, hfirst⟩ := exists_isFirstClaim hmatch
    have hj := targetAt_propose.2 hfirst
    refine ⟨j, hj, fun k hk => ?_⟩
    exact nodup_targets_iff.1 hfits.distinct k j key hk hj
  case distinct => exact hfits.distinct
  case known => exact hfits.known
  case named =>
    intro f hf name hname i header hheader hsame
    have hmatch : matchAt mode.fields headers i = some f.key := by
      rw [matchAt, hheader, Option.bind_some, Header.match?_of_name hf hname hsame]
    obtain ⟨j, hj, hfirst⟩ := exists_isFirstClaim hmatch
    rcases Nat.lt_or_eq_of_le hj with hearlier | rfl
    · exact .inr ⟨j, hearlier, hfirst.1⟩
    · exact .inl (targetAt_propose.2 hfirst)

/-- A word for the name comes before the name itself. -/
example : propose Mode.properties.fields ["Propiedad", "name"] =
    [⟨"Propiedad", some "name"⟩, ⟨"name", none⟩] := by
  decide +kernel

end SheetIntake.Mapping
