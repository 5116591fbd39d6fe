import SheetIntake.Payload.Registry
import SheetIntake.Proofs.Table.Contents

/-! # Payloads have the members of their fields

    A payload is built from a shape for its mode; its members can also be read off the registry,
    field by field.  There is one rule per kind of field (`fieldMembers_text` and the like), and
    the two come to the same (`members_build`).  No two fields share a member, so every one of them
    is found under its key (`lookup_ofFields`).  For cells that come from columns named after
    fields this says of every field what a payload has for it (`shows_build`). -/

namespace SheetIntake

/-- Among distinct keys, what is given for a key is found under it. -/
theorem Json.lookup_present {members : List (String × Option Json)}
    (distinct : (members.map Prod.fst).Nodup) {key : String} {value : Option Json}
    (h : (key, value) ∈ members) : (Json.present members).lookup key = value := by
  induction members with
  | nil => cases h
  | cons m ms ih =>
    obtain ⟨hnew, hdistinct⟩ := List.nodup_cons.1 distinct
    rcases List.mem_cons.1 h with rfl | hlater
    · cases value with
      | some v => simp [Json.present]
      | none =>
        -- An absent member is not there later on, either.
        show (Json.present ms).lookup key = none
        refine List.lookup_eq_none_iff.2 fun p hp => ?_
        obtain ⟨m, hm, hpair⟩ := List.mem_filterMap.1 hp
        obtain ⟨v, -, rfl⟩ := Option.map_eq_some_iff.1 hpair
        rw [bne_iff_ne]
        rintro rfl
        exact hnew (List.mem_map.2 ⟨m, hm, rfl⟩)
    · have hother : (key == m.1) = false := by
        rw [beq_eq_false_iff_ne]
        rintro rfl
        exact hnew (List.mem_map.2 ⟨_, hlater, rfl⟩)
      obtain ⟨k, v⟩ := m
      cases v with
      | none => exact ih hdistinct hlater
      | some v =>
        show List.lookup key ((k, v) :: Json.present ms) = value
        rw [List.lookup_cons, hother]
        exact ih hdistinct hlater

namespace Payload

variable {mode : Mode} {cells : MappedCells} {table : List LookupEntry} {f : TargetField}

/-! ## One kind after the other -/

/-- A field that is no reference has one member, under its own key. -/
theorem fieldMembers_eq (h : f.kind ≠ .reference) :
    fieldMembers mode cells table f =
      [(f.key, ((cells.get? f.key).bind (fieldValue? f)).or (fallback? mode f))] := by
  unfold fieldMembers
  split
  · contradiction
  · rfl

theorem fieldMembers_text (h : f.kind = .text) :
    fieldMembers mode cells table f =
      [(f.key, ((cells.text? f.key).map fun t => Json.str (spelled f.key t)).or
        (fallback? mode f))] := by
  rw [fieldMembers_eq (by simp [h]), MappedCells.text?, MappedCells.value?]
  cases cells.get? f.key <;> simp [fieldValue?, h]

theorem fieldMembers_number (h : f.kind = .number) :
    fieldMembers mode cells table f =
      [(f.key, ((cells.number? f.key).map Json.real).or (fallback? mode f))] := by
  rw [fieldMembers_eq (by simp [h]), MappedCells.number?, MappedCells.value?]
  cases cells.get? f.key <;> simp [fieldValue?, h]

theorem fieldMembers_integer (h : f.kind = .integer) :
    fieldMembers mode cells table f =
      [(f.key, ((cells.integer? f.key).map Json.int).or (fallback? mode f))] := by
  rw [fieldMembers_eq (by simp [h]), MappedCells.integer?, MappedCells.value?]
  cases cells.get? f.key <;> simp [fieldValue?, h]

theorem fieldMembers_boolean (h : f.kind = .boolean) :
    fieldMembers mode cells table f =
      [(f.key, ((cells.boolean? f.key).map Json.bool).or (fallback? mode f))] := by
  rw [fieldMembers_eq (by simp [h]), MappedCells.boolean?, MappedCells.value?]
  cases cells.get? f.key <;> simp [fieldValue?, h]

theorem fieldMembers_date (h : f.kind = .date) :
    fieldMembers mode cells table f =
      [(f.key, ((cells.date? f.key).map Json.str).or (fallback? mode f))] := by
  rw [fieldMembers_eq (by simp [h]), MappedCells.date?, MappedCells.value?]
  cases cells.get? f.key <;> simp [fieldValue?, h]

theorem fieldMembers_reference (h : f.kind = .reference) :
    fieldMembers mode cells table f =
      referenceMembers mode (Reference.ofCell cells table f.key) := by
  simp only [fieldMembers, h]

/-! ## All fields -/

theorem members_build (mode : Mode) (cells : MappedCells) (table : List LookupEntry) :
    (build mode cells table).members = mode.fields.flatMap (fieldMembers mode cells table) := by
  cases mode with
  | properties =>
    simp [build, members, ofProperty, Mode.fields, propertyFields, fieldMembers_text,
      fieldMembers_number, fallback?, spelled]
  | units =>
    simp [build, members, ofUnit, Mode.fields, unitFields, fieldMembers_text, fieldMembers_number,
      fieldMembers_integer, fieldMembers_boolean, fieldMembers_reference, referenceMembers,
      fallback?, spelled, Function.comp_def]
  | leases =>
    -- A lease always has a currency, so it is given as one text.
    have hcurrency : Json.str (((cells.text? "currency").map Text.upper).getD leaseCurrency) =
        ((cells.text? "currency").map fun t => Json.str (Text.upper t)).getD
          (.str leaseCurrency) := by
      cases cells.text? "currency" <;> rfl
    simp [build, members, ofLease, Mode.fields, leaseFields, fieldMembers_text, fieldMembers_number,
      fieldMembers_date, fieldMembers_reference, referenceMembers, fallback?, spelled,
      Function.comp_def, hcurrency]

/-- The object of a payload is the one read off the registry. -/
theorem object_build (mode : Mode) (cells : MappedCells) (table : List LookupEntry) :
    (build mode cells table).object = ofFields mode cells table := by
  rw [object, members_build, ofFields]

/-! ## What is found under a key -/

theorem nodup_fieldMembers (mode : Mode) (cells : MappedCells) (table : List LookupEntry) :
    ((mode.fields.flatMap (fieldMembers mode cells table)).map Prod.fst).Nodup := by
  cases mode <;> simp [Mode.fields, propertyFields, unitFields, leaseFields, fieldMembers,
    referenceMembers]

/-- No field shares a member with another. -/
theorem lookup_ofFields (hf : f ∈ mode.fields) {key : String} {value : Option Json}
    (h : (key, value) ∈ fieldMembers mode cells table f) :
    (ofFields mode cells table).lookup key = value :=
  Json.lookup_present (nodup_fieldMembers mode cells table) (List.mem_flatMap.2 ⟨f, hf, h⟩)

/-! ## Columns named after fields -/

/-- A payload shows a row of a file whose columns are named after fields. -/
structure Shows (mode : Mode) (keys : List String) (table : List LookupEntry)
    (cells : List String) (p : Payload) : Prop where
  mode_eq : p.mode = mode
  /-- It has the members of the fields, and no other. -/
  object_eq : p.object = ofFields mode ⟨keys.zip cells⟩ table
  /-- Under the key of a field stands the cell of its column, coerced as the kind of the field
  says, or what the field falls back on. -/
  value : ∀ f ∈ mode.fields, f.kind ≠ .reference →
    ∀ i (h : i < keys.length), keys[i] = f.key →
      p.object.lookup f.key = (cells[i]?.bind (fieldValue? f)).or (fallback? mode f)
  /-- The ids are those of the record that the cell refers to. -/
  reference : ∀ f ∈ mode.fields, f.kind = .reference →
    ∀ i (h : i < keys.length) (cell : String), keys[i] = f.key → cells[i]? = some cell →
      ∀ m ∈ referenceMembers mode (Reference.ofText table cell), p.object.lookup m.1 = m.2
  /-- A field without a column is absent, but for what it falls back on. -/
  absent : ∀ f ∈ mode.fields, f.key ∉ keys → f.kind ≠ .reference →
    p.object.lookup f.key = fallback? mode f
  unreferenced : ∀ f ∈ mode.fields, f.key ∉ keys → f.kind = .reference →
    ∀ m ∈ referenceMembers mode .blank, p.object.lookup m.1 = none

/-- The objects of payloads that show rows. -/
theorem map_object_of_shows {keys : List String} {rows : List (List String)}
    {payloads : List Payload} (h : List.Forall₂ (Shows mode keys table) rows payloads) :
    payloads.map object = rows.map fun cells => ofFields mode ⟨keys.zip cells⟩ table := by
  induction h with
  | nil => rfl
  | cons hshows _ ih => rw [List.map_cons, List.map_cons, hshows.object_eq, ih]

/-- Nothing is sent for a blank reference. -/
theorem referenceMembers_blank {m : String × Option Json}
    (h : m ∈ referenceMembers mode .blank) : m.2 = none := by
  cases mode with
  | properties => cases h
  | units =>
    obtain rfl : m = ("property_id", none) := List.mem_singleton.1 h
    rfl
  | leases =>
    have hm : m = ("unit_id", none) ∨ m = ("property_id", none) := List.mem_pair.1 h
    rcases hm with rfl | rfl <;> rfl

theorem mode_build (mode : Mode) (cells : MappedCells) (table : List LookupEntry) :
    (build mode cells table).mode = mode := by
  cases mode <;> rfl

theorem shows_build (mode : Mode) {keys : List String} (distinct : keys.Nodup)
    (table : List LookupEntry) (cells : List String) :
    Shows mode keys table cells (build mode ⟨keys.zip cells⟩ table) where
  mode_eq := mode_build mode _ table
  object_eq := object_build mode _ table
  value f hf hkind i hi hkey := by
    rw [object_build]
    refine lookup_ofFields hf ?_
    rw [fieldMembers_eq hkind, ← hkey, TextMap.get?_zip distinct cells hi]
    exact List.mem_singleton_self _
  reference f hf hkind i hi cell hkey hcell m hm := by
    rw [object_build]
    refine lookup_ofFields hf ?_
    have hget : TextMap.get? ⟨keys.zip cells⟩ f.key = some cell := by
      rw [← hkey, TextMap.get?_zip distinct cells hi, hcell]
    rw [fieldMembers_reference hkind, Reference.ofCell, hget]
    exact hm
  absent f hf hkey hkind := by
    rw [object_build]
    refine lookup_ofFields hf ?_
    rw [fieldMembers_eq hkind, TextMap.get?_zip_of_not_mem hkey]
    exact List.mem_singleton_self _
  unreferenced f hf hkey hkind m hm := by
    rw [object_build, ← referenceMembers_blank hm]
    refine lookup_ofFields hf ?_
    rw [fieldMembers_reference hkind, Reference.ofCell, TextMap.get?_zip_of_not_mem hkey]
    exact hm

end Payload

end SheetIntake
