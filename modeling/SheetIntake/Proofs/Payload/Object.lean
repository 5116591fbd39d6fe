import SheetIntake.Proofs.Payload.Registry

/-! # What stands in the object of a payload

    The registry says of every field what kind of value it has, and the shapes of the payloads
    say it again, member by member.  Both say the same (`payload_read_off_registry`): the object of
    a payload has the coerced cell of every field under its own key, the ids of what a reference
    has found, and nothing else.  A cell without a value leaves its field out, or what the field
    falls back on takes its place.  Values are never null and numbers always finite. -/

namespace SheetIntake

/-- A text, a truth value or a finite number. -/
def Json.IsScalar : Json → Prop
  | .bool _ | .int _ | .str _ => True
  | .real x => x.isFinite = true
  | .null | .arr _ | .obj _ => False

/-- Every member that is there has been given with its value. -/
theorem Json.mem_present {members : List (String × Option Json)} {m : String × Json} :
    m ∈ Json.present members ↔ (m.1, some m.2) ∈ members := by
  rw [Json.present, List.mem_filterMap]
  constructor
  · rintro ⟨⟨key, value⟩, hgiven, hvalue⟩
    obtain ⟨v, rfl, rfl⟩ := Option.map_eq_some_iff.1 hvalue
    exact hgiven
  · intro hgiven
    exact ⟨_, hgiven, rfl⟩

theorem Json.present_sublist (members : List (String × Option Json)) :
    ((Json.present members).map Prod.fst).Sublist (members.map Prod.fst) := by
  induction members with
  | nil => exact .slnil
  | cons m ms ih =>
    obtain ⟨key, value⟩ := m
    cases value with
    | none => exact ih.cons key
    | some v => exact ih.cons_cons key

namespace Payload

variable {mode : Mode} {cells : MappedCells} {table : List LookupEntry} {f : TargetField}

/-! ## What one cell gives -/

/-- A blank cell has no value of any kind. -/
theorem fieldValue?_blank (f : TargetField) {cell : String} (h : Text.isBlank cell = true) :
    fieldValue? f cell = none := by
  have htext : Coercion.text? cell = none := by rw [Coercion.text?, Text.trimmed?, if_pos h]
  have hnumber : Coercion.number? cell = none := by
    have hempty : Text.trim cell = "" := by
      rw [Text.trim, Text.trimChars_eq_nil.2 h, String.ofList_nil]
    rw [Coercion.number?, hempty]
    rfl
  unfold fieldValue?
  split <;>
    simp [htext, hnumber, Coercion.integer?, Coercion.boolean?, Coercion.date?]

theorem isScalar_fieldValue? {cell : String} {j : Json} (h : fieldValue? f cell = some j) :
    j.IsScalar := by
  unfold fieldValue? at h
  split at h
  · obtain ⟨t, -, rfl⟩ := Option.map_eq_some_iff.1 h
    trivial
  · -- Numbers that are not finite have been filtered out.
    obtain ⟨x, hx, rfl⟩ := Option.map_eq_some_iff.1 h
    exact (Option.filter_eq_some_iff.1 hx).2
  · obtain ⟨n, -, rfl⟩ := Option.map_eq_some_iff.1 h
    trivial
  · obtain ⟨b, -, rfl⟩ := Option.map_eq_some_iff.1 h
    trivial
  · obtain ⟨t, -, rfl⟩ := Option.map_eq_some_iff.1 h
    trivial
  · cases h

theorem isScalar_fallback? {j : Json} (h : fallback? mode f = some j) : j.IsScalar := by
  unfold fallback? at h
  split at h
  · obtain rfl := Option.some.inj h
    trivial
  · split at h
    · obtain rfl := Option.some.inj h
      trivial
    · cases h

/-! ## What a reference gives -/

/-- The keys of the ids that references give. -/
def referenceKeys : Mode → List String
  | .properties => []
  | .units => ["property_id"]
  | .leases => ["unit_id", "property_id"]

theorem map_fst_referenceMembers (mode : Mode) (r : Reference) :
    (referenceMembers mode r).map Prod.fst = referenceKeys mode := by
  cases mode <;> rfl

theorem isScalar_referenceMembers {r : Reference} {key : String} {j : Json}
    (h : (key, some j) ∈ referenceMembers mode r) : j.IsScalar := by
  have hid : ∀ {id : Option String}, some j = id.map Json.str → j.IsScalar := by
    intro id hj
    obtain ⟨t, -, rfl⟩ := Option.map_eq_some_iff.1 hj.symm
    trivial
  cases mode with
  | properties => cases h
  | units => exact hid (Prod.ext_iff.1 (List.mem_singleton.1 h)).2
  | leases =>
    rcases List.mem_pair.1 h with hunit | hproperty
    · exact hid (Prod.ext_iff.1 hunit).2
    · exact hid (Prod.ext_iff.1 hproperty).2

/-! ## What a field gives -/

/-- A field gives members under its own key, or those of references. -/
theorem key_of_mem_fieldMembers {m : String × Option Json}
    (h : m ∈ fieldMembers mode cells table f) :
    (f.kind ≠ .reference ∧ m.1 = f.key) ∨ m.1 ∈ referenceKeys mode := by
  by_cases hkind : f.kind = .reference
  · rw [fieldMembers_reference hkind] at h
    rw [← map_fst_referenceMembers mode (Reference.ofCell cells table f.key)]
    exact .inr (List.mem_map_of_mem h)
  · rw [fieldMembers_eq hkind, List.mem_singleton] at h
    exact .inl ⟨hkind, congrArg Prod.fst h⟩

theorem isScalar_fieldMembers {key : String} {j : Json}
    (h : (key, some j) ∈ fieldMembers mode cells table f) : j.IsScalar := by
  by_cases hkind : f.kind = .reference
  · rw [fieldMembers_reference hkind] at h
    exact isScalar_referenceMembers h
  · rw [fieldMembers_eq hkind, List.mem_singleton] at h
    have hvalue := (Prod.ext_iff.1 h).2.symm
    rcases Option.or_eq_some_iff.1 hvalue with hcell | ⟨-, hfallback⟩
    · obtain ⟨cell, -, hcoerced⟩ := Option.bind_eq_some_iff.1 hcell
      exact isScalar_fieldValue? hcoerced
    · exact isScalar_fallback? hfallback

/-! ## The whole object -/

/-- The members of an object are those of the fields of a mode. -/
structure ReadOff (mode : Mode) (cells : MappedCells) (table : List LookupEntry)
    (members : List (String × Json)) : Prop where
  distinct : (members.map Prod.fst).Nodup
  /-- The cell of a field stands under its key, coerced as the kind of the field says, or what
  the field falls back on. -/
  value : ∀ f ∈ mode.fields, f.kind ≠ .reference →
    members.lookup f.key = ((cells.get? f.key).bind (fieldValue? f)).or (fallback? mode f)
  /-- A field whose cell is missing, blank or not coercible is left out but for this. -/
  absent : ∀ f ∈ mode.fields, f.kind ≠ .reference →
    (∀ cell ∈ cells.get? f.key, Text.isBlank cell = true ∨ fieldValue? f cell = none) →
      members.lookup f.key = fallback? mode f
  /-- The ids are those of the record that the cell of a reference refers to. -/
  reference : ∀ f ∈ mode.fields, f.kind = .reference →
    ∀ m ∈ referenceMembers mode (Reference.ofCell cells table f.key), members.lookup m.1 = m.2
  /-- There is no other key. -/
  only : ∀ m ∈ members,
    (∃ f ∈ mode.fields, f.kind ≠ .reference ∧ m.1 = f.key) ∨ m.1 ∈ referenceKeys mode
  scalar : ∀ m ∈ members, m.2.IsScalar

theorem lookup_of_kind (hf : f ∈ mode.fields) (hkind : f.kind ≠ .reference) :
    (ofFields mode cells table).lookup f.key =
      ((cells.get? f.key).bind (fieldValue? f)).or (fallback? mode f) := by
  refine lookup_ofFields hf ?_
  rw [fieldMembers_eq hkind]
  exact List.mem_singleton_self _

theorem mem_ofFields {m : String × Json} :
    m ∈ ofFields mode cells table ↔
      ∃ f ∈ mode.fields, (m.1, some m.2) ∈ fieldMembers mode cells table f := by
  rw [ofFields, Json.mem_present, List.mem_flatMap]

theorem readOff_ofFields (mode : Mode) (cells : MappedCells) (table : List LookupEntry) :
    ReadOff mode cells table (ofFields mode cells table) where
  distinct := (nodup_fieldMembers mode cells table).sublist (Json.present_sublist _)
  value _ hf hkind := lookup_of_kind hf hkind
  absent f hf hkind hcell := by
    have hnone : (cells.get? f.key).bind (fieldValue? f) = none := by
      rw [Option.bind_eq_none_iff]
      intro cell hget
      rcases hcell cell hget with hblank | hvalue
      · exact fieldValue?_blank f hblank
      · exact hvalue
    rw [lookup_of_kind hf hkind, hnone, Option.none_or]
  reference f hf hkind m hm := by
    refine lookup_ofFields hf ?_
    rw [fieldMembers_reference hkind]
    exact hm
  only m hm := by
    obtain ⟨f, hf, hgiven⟩ := mem_ofFields.1 hm
    rcases key_of_mem_fieldMembers hgiven with ⟨hkind, hkey⟩ | hreference
    · exact .inl ⟨f, hf, hkind, hkey⟩
    · exact .inr hreference
  scalar m hm := by
    obtain ⟨f, -, hgiven⟩ := mem_ofFields.1 hm
    exact isScalar_fieldMembers hgiven

/-- The object of every payload is the one that the registry describes. -/
theorem payload_read_off_registry (mode : Mode) (cells : MappedCells)
    (table : List LookupEntry) :
    (build mode cells table).toJson = .obj (ofFields mode cells table) ∧
      ReadOff mode cells table (ofFields mode cells table) :=
  ⟨congrArg Json.obj (object_build mode cells table), readOff_ofFields mode cells table⟩

/-- An unknown reference, a number that is not finite, a blank text and a word for no. -/
example : (build .units
      ⟨[("property_name", "Casa"), ("code", " "), ("bathrooms", "1e999"), ("currency", " usd "),
        ("is_active", "Inactivo")]⟩ []).object =
    [("property_id", .str ""), ("code", .str ""), ("name", .str ""), ("currency", .str "USD"),
      ("is_active", .bool false)] := by
  rfl

end Payload

end SheetIntake
