import SheetIntake.Proofs.Payload.Object

/-! # A field depends on its own column only

    A row passes through two maps: from columns to cells, and by the mapping from fields to cells.
    With distinct targets no cell replaces another in the second one, so what stands under a field
    is the cell of the column that goes to it (`Mapping.get?_apply`).  A payload looks every field
    up by its key and nothing else (`build_congr`), and the members of a field read the cell of
    that field alone (`fieldMembers_congr`).  Hence rows that agree on a column give payloads that
    agree on its field, whatever stands in their other columns (`payload_reads_own_columns`). -/

namespace SheetIntake

/-! ## The cells that a mapping picks -/

namespace Mapping

variable {m : Mapping} {key value : String}

theorem map_fst_pairs (m : Mapping) (row : Row) :
    (m.filterMap fun c => c.target.map fun key => (key, row.getText c.header)).map Prod.fst =
      m.targets := by
  simp [targets, List.map_filterMap, Function.comp_def]

/-- Under a field stands the cell of the column that goes to it. -/
theorem get?_apply (distinct : m.targets.Nodup) {row : Row} :
    (m.apply row).get? key = some value ↔
      ∃ c ∈ m, c.target = some key ∧ row.getText c.header = value := by
  have hkeys := map_fst_pairs m row ▸ distinct
  rw [apply, TextMap.ofPairs_eq hkeys, TextMap.get?_eq_some_iff hkeys, List.mem_filterMap]
  simp only [Option.map_eq_some_iff, Prod.mk.injEq]
  constructor
  · rintro ⟨c, hc, _, htarget, rfl, hcell⟩
    exact ⟨c, hc, htarget, hcell⟩
  · rintro ⟨c, hc, htarget, hcell⟩
    exact ⟨c, hc, key, htarget, rfl, hcell⟩

/-- Two rows have the same text in the column that goes to a field, if there is one. -/
def AgreeOn (m : Mapping) (key : String) (row₁ row₂ : Row) : Prop :=
  ∀ c ∈ m, c.target = some key → row₁.getText c.header = row₂.getText c.header

theorem AgreeOn.symm {row₁ row₂ : Row} (h : m.AgreeOn key row₁ row₂) : m.AgreeOn key row₂ row₁ :=
  fun c hc htarget => (h c hc htarget).symm

theorem AgreeOn.get?_apply_eq {row₁ row₂ : Row} (h : m.AgreeOn key row₁ row₂)
    (distinct : m.targets.Nodup) : (m.apply row₁).get? key = (m.apply row₂).get? key := by
  have hle : ∀ {row₁ row₂ : Row}, m.AgreeOn key row₁ row₂ → ∀ value,
      (m.apply row₁).get? key = some value → (m.apply row₂).get? key = some value := by
    intro row₁ row₂ hagree value hvalue
    obtain ⟨c, hc, htarget, rfl⟩ := (get?_apply distinct).1 hvalue
    exact (get?_apply distinct).2 ⟨c, hc, htarget, (hagree c hc htarget).symm⟩
  exact Option.ext fun value => ⟨hle h value, hle h.symm value⟩

/-- No cell goes to a field that is no target. -/
theorem get?_apply_of_not_mem (distinct : m.targets.Nodup) (h : key ∉ m.targets) (row : Row) :
    (m.apply row).get? key = none := by
  rw [Option.eq_none_iff_forall_ne_some]
  rintro value hvalue
  obtain ⟨c, hc, htarget, -⟩ := (get?_apply distinct).1 hvalue
  exact h (List.mem_filterMap.2 ⟨c, hc, htarget⟩)

/-- The order of the columns makes no difference to what stands under a field. -/
theorem get?_apply_perm {m' : Mapping} (perm : m'.Perm m) (distinct : m.targets.Nodup)
    (row : Row) (key : String) : (m'.apply row).get? key = (m.apply row).get? key := by
  have hdistinct : m'.targets.Nodup := (perm.filterMap _).nodup_iff.2 distinct
  refine Option.ext fun value => ?_
  simp only [get?_apply hdistinct, get?_apply distinct, perm.mem_iff]

end Mapping

namespace Payload

variable {mode : Mode} {cells₁ cells₂ : MappedCells} {table : List LookupEntry} {f : TargetField}

/-! ## What a payload looks up -/

theorem fieldMembers_congr (h : cells₁.get? f.key = cells₂.get? f.key) :
    fieldMembers mode cells₁ table f = fieldMembers mode cells₂ table f := by
  by_cases hkind : f.kind = .reference
  · rw [fieldMembers_reference hkind, fieldMembers_reference hkind, Reference.ofCell, h]
    rfl
  · rw [fieldMembers_eq hkind, fieldMembers_eq hkind, h]

/-- A payload is made of the cells that stand under the fields of its mode. -/
theorem build_congr (h : ∀ f ∈ mode.fields, cells₁.get? f.key = cells₂.get? f.key) :
    build mode cells₁ table = build mode cells₂ table := by
  cases mode with
  | properties =>
    simp only [Mode.fields, propertyFields, List.forall_mem_cons] at h
    simp [build, ofProperty, MappedCells.text?, MappedCells.number?, MappedCells.value?, h]
  | units =>
    simp only [Mode.fields, unitFields, List.forall_mem_cons] at h
    simp [build, ofUnit, MappedCells.text?, MappedCells.number?, MappedCells.integer?,
      MappedCells.boolean?, MappedCells.value?, Reference.ofCell, h]
  | leases =>
    simp only [Mode.fields, leaseFields, List.forall_mem_cons] at h
    simp [build, ofLease, MappedCells.text?, MappedCells.number?, MappedCells.date?,
      MappedCells.value?, Reference.ofCell, h]

/-- The keys of the members that a field gives: its own, or those of the ids. -/
def memberKeys (mode : Mode) (f : TargetField) : List String :=
  if f.kind = .reference then referenceKeys mode else [f.key]

theorem map_fst_fieldMembers (mode : Mode) (cells : MappedCells) (table : List LookupEntry)
    (f : TargetField) : (fieldMembers mode cells table f).map Prod.fst = memberKeys mode f := by
  unfold memberKeys
  split
  · rename_i hkind
    rw [fieldMembers_reference hkind, map_fst_referenceMembers]
  · rename_i hkind
    rw [fieldMembers_eq hkind, List.map_singleton]

/-- The members of a field are read off the cell that stands under it. -/
theorem lookup_build_congr (hf : f ∈ mode.fields) {key : String} (hkey : key ∈ memberKeys mode f)
    (h : cells₁.get? f.key = cells₂.get? f.key) :
    (build mode cells₁ table).object.lookup key = (build mode cells₂ table).object.lookup key := by
  rw [← map_fst_fieldMembers mode cells₁ table f] at hkey
  obtain ⟨⟨key, value⟩, hmember, rfl⟩ := List.mem_map.1 hkey
  rw [object_build, object_build, lookup_ofFields hf hmember]
  rw [fieldMembers_congr h] at hmember
  rw [lookup_ofFields hf hmember]

/-! ## Rows and payloads -/

/-- The payload of a row. -/
def ofRow (mode : Mode) (m : Mapping) (table : List LookupEntry) (row : Row) : Payload :=
  build mode (m.apply row) table

/-- Each row makes its payload alone. -/
theorem ofRows_eq (mode : Mode) (rows : List Row) (m : Mapping) (table : List LookupEntry) :
    ofRows mode rows m table = rows.map (ofRow mode m table) := rfl

/-- Every field is read off its own column. -/
structure ReadsOwnColumns (mode : Mode) (m : Mapping) (table : List LookupEntry) : Prop where
  /-- Rows that agree on the column of a field give payloads that agree on the members of this
  field. -/
  own : ∀ f ∈ mode.fields, ∀ row₁ row₂, m.AgreeOn f.key row₁ row₂ → ∀ key ∈ memberKeys mode f,
    (ofRow mode m table row₁).object.lookup key = (ofRow mode m table row₂).object.lookup key
  /-- Columns that go to no field have no influence on any part of the payload. -/
  skipped : ∀ row₁ row₂, (∀ f ∈ mode.fields, m.AgreeOn f.key row₁ row₂) →
    ofRow mode m table row₁ = ofRow mode m table row₂
  /-- A field without a column has in every payload what it has if there are no cells at all. -/
  unmapped : ∀ f ∈ mode.fields, f.key ∉ m.targets → ∀ row, ∀ key ∈ memberKeys mode f,
    (ofRow mode m table row).object.lookup key = (build mode .empty table).object.lookup key
  /-- The order of the columns makes no difference. -/
  permuted : ∀ m', m'.Perm m → ∀ row, ofRow mode m' table row = ofRow mode m table row

/-- Under a mapping with distinct targets every field is read off its own column. -/
theorem payload_reads_own_columns (mode : Mode) (table : List LookupEntry) {m : Mapping}
    (distinct : m.targets.Nodup) : ReadsOwnColumns mode m table := by
  constructor
  case own =>
    intro f hf row₁ row₂ hagree key hkey
    have hcell := hagree.get?_apply_eq distinct
    exact lookup_build_congr hf hkey hcell
  case skipped =>
    intro row₁ row₂ hagree
    refine build_congr fun f hf => ?_
    exact (hagree f hf).get?_apply_eq distinct
  case unmapped =>
    intro f hf htarget row key hkey
    have hnone := Mapping.get?_apply_of_not_mem distinct htarget row
    exact lookup_build_congr hf hkey hnone
  case permuted =>
    intro m' perm row
    refine build_congr fun f _ => ?_
    exact Mapping.get?_apply_perm perm distinct row f.key

/-- The columns of a list of leases, one of which goes nowhere. -/
def Sample.leaseColumns : Mapping :=
  [⟨"Flat", some "unit_name"⟩, ⟨"Remark", none⟩, ⟨"Rent", some "monthly_rent"⟩,
    ⟨"Who", some "tenant_full_name"⟩]

def Sample.units : List LookupEntry := [⟨"u-1", "Loft", some "L", some "p-1"⟩]

def Sample.ann : Row := ⟨[("Flat", "loft"), ("Remark", "new"), ("Rent", "100"), ("Who", "Ann")]⟩

def Sample.bob : Row := ⟨[("Flat", "loft"), ("Remark", ""), ("Rent", "100"), ("Who", "Bob")]⟩

/-- Two rows with one flat give the same ids, whatever else is different. -/
theorem ann_and_bob_share_a_flat :
    Sample.leaseColumns.targets.Nodup ∧
      ReadsOwnColumns .leases Sample.leaseColumns Sample.units ∧
      Sample.leaseColumns.AgreeOn "unit_name" Sample.ann Sample.bob ∧
      (∀ key ∈ ["unit_id", "property_id"],
        (ofRow .leases Sample.leaseColumns Sample.units Sample.ann).object.lookup key =
          (ofRow .leases Sample.leaseColumns Sample.units Sample.bob).object.lookup key) ∧
      ofRow .leases Sample.leaseColumns Sample.units Sample.ann ≠
        ofRow .leases Sample.leaseColumns Sample.units Sample.bob := by
  have hdistinct : Sample.leaseColumns.targets.Nodup := by decide
  have hreads := payload_reads_own_columns .leases Sample.units hdistinct
  have hagree : Sample.leaseColumns.AgreeOn "unit_name" Sample.ann Sample.bob := by
    unfold Mapping.AgreeOn
    decide
  have hunit : ⟨"unit_name", "Unidad / Unit", false, .reference⟩ ∈ Mode.leases.fields := by decide
  exact ⟨hdistinct, hreads, hagree, hreads.own _ hunit _ _ hagree, by decide +kernel⟩

end Payload

end SheetIntake
