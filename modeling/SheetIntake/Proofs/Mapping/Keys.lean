import SheetIntake.Payload.Build
import SheetIntake.Proofs.Delimited.Sniffing
import SheetIntake.Proofs.Mapping

/-! # Columns named after fields

    A column can bear the key of the field that it is meant for.  The registry is such that this
    works for all fields of a mode at once: the keys and labels of different fields have different
    normal forms, so a header that reads like one of them means this field
    (`Header.match?_of_name`).  So the proposal sends every column to its field, in any order of
    the columns (`Mapping.propose_keys`), and the mapping hands the cells of a row on as they are
    (`Mapping.apply_named`). -/

namespace SheetIntake

variable {mode : Mode} {f : TargetField}

/-! ## The keys of the registry -/

theorem Mode.clean_key {key : String} (h : key ∈ mode.fields.map TargetField.key) :
    Text.Clean key := by
  have hregistry : ∀ f ∈ mode.fields, Text.trim f.key = f.key ∧ Text.isBlank f.key = false := by
    cases mode <;> decide
  obtain ⟨f, hf, rfl⟩ := List.mem_map.1 h
  obtain ⟨htrimmed, hfull⟩ := hregistry f hf
  exact ⟨htrimmed, hfull⟩

theorem Mode.isPlainHeader_key {key : String} (h : key ∈ mode.fields.map TargetField.key) :
    Delimited.IsPlainHeader key := by
  have hregistry : ∀ f ∈ mode.fields,
      (f.key.toList.all fun x => !Delimited.candidates.contains x && x != '\n') = true := by
    cases mode <;> decide +kernel
  obtain ⟨f, hf, rfl⟩ := List.mem_map.1 h
  intro x hx
  simpa using List.all_eq_true.1 (hregistry f hf) x hx

namespace Header

/-- The characters of a normal form. -/
def normalChars (cs : List Char) : List Char :=
  (Text.lowerFrom [] (Text.trimChars cs)).filter isPlain

theorem normalForm_eq (s : String) : normalForm s = String.ofList (normalChars s.toList) := by
  simp [normalForm, normalChars, Text.lower, Text.trim]

theorem normalForm_beq (s t : String) :
    (normalForm s == normalForm t) = (normalChars s.toList == normalChars t.toList) := by
  rw [normalForm_eq, normalForm_eq, Bool.eq_iff_iff, beq_iff_eq, beq_iff_eq, String.ofList_inj]

/-- What a header can call a field. -/
def names (f : TargetField) : List String := [f.key, f.label]

/-- The first field that a name can mean is the one that bears it. -/
theorem byName?_name {name : String} (h : f ∈ mode.fields) (hname : name ∈ names f) :
    byName? mode.fields (normalForm name) = some f.key := by
  have hregistry : ∀ f ∈ mode.fields, ∀ name ∈ names f,
      (mode.fields.find? fun g =>
        normalChars g.key.toList == normalChars name.toList ||
          normalChars g.label.toList == normalChars name.toList) = some f := by
    cases mode <;> decide +kernel
  simp only [byName?, normalForm_beq, hregistry f h name hname, Option.map_some]

theorem normalForm_name_ne_empty {name : String} (h : f ∈ mode.fields) (hname : name ∈ names f) :
    (normalForm name).isEmpty = false := by
  have hregistry : ∀ f ∈ mode.fields, ∀ name ∈ names f, normalChars name.toList ≠ [] := by
    cases mode <;> decide +kernel
  rw [normalForm_eq, Bool.eq_false_iff, ne_eq, String.isEmpty_iff, String.ofList_eq_empty_iff]
  exact hregistry f h name hname

/-- A header with the normal form of a name matches the field that bears the name. -/
theorem match?_of_name {header name : String} (h : f ∈ mode.fields) (hname : name ∈ names f)
    (same : normalForm header = normalForm name) : match? mode.fields header = some f.key := by
  unfold match?
  simp only [same, normalForm_name_ne_empty h hname, byName?_name h hname]
  rfl

theorem match?_key (h : f ∈ mode.fields) : match? mode.fields f.key = some f.key :=
  match?_of_name h (List.mem_cons_self ..) rfl

end Header

namespace Mapping

variable {keys : List String}

/-- Every column goes to the field that it is named after. -/
def named (keys : List String) : Mapping := keys.map fun key => ⟨key, some key⟩

@[simp] theorem targets_named (keys : List String) : (named keys).targets = keys := by
  simp [targets, named, List.filterMap_map]

theorem proposeFrom_keys {claimed : List String}
    (known : ∀ key ∈ keys, key ∈ mode.fields.map TargetField.key) (distinct : keys.Nodup)
    (free : ∀ key ∈ keys, key ∉ claimed) :
    proposeFrom mode.fields claimed keys = named keys := by
  induction keys generalizing claimed with
  | nil => rfl
  | cons key keys ih =>
    obtain ⟨hknown, hknowns⟩ := List.forall_mem_cons.1 known
    obtain ⟨hnew, hdistinct⟩ := List.nodup_cons.1 distinct
    obtain ⟨hfree, hfrees⟩ := List.forall_mem_cons.1 free
    obtain ⟨f, hf, rfl⟩ := List.mem_map.1 hknown
    -- The field is claimed now, but no later column asks for it.
    have hlater : ∀ k ∈ keys, k ∉ f.key :: claimed := by
      intro k hk hmem
      rcases List.mem_cons.1 hmem with rfl | hclaimed
      · exact hnew hk
      · exact hfrees k hk hclaimed
    have hunclaimed : claimed.contains f.key = false := by simpa using hfree
    unfold proposeFrom
    simp only [Header.match?_key hf, hunclaimed, ih hknowns hdistinct hlater]
    rfl

/-- Columns that bear the keys of distinct fields are proposed for these fields. -/
theorem propose_keys (known : ∀ key ∈ keys, key ∈ mode.fields.map TargetField.key)
    (distinct : keys.Nodup) : propose mode.fields keys = named keys :=
  proposeFrom_keys known distinct (by simp)

/-- A mapping to columns of the same names hands the cells of a row on as they are. -/
theorem apply_named (distinct : keys.Nodup) {cells : List String}
    (width : cells.length = keys.length) :
    (named keys).apply ⟨keys.zip cells⟩ = ⟨keys.zip cells⟩ := by
  have hpairs : (keys.map fun key => (key, TextMap.getText ⟨keys.zip cells⟩ key)) =
      keys.zip cells := by
    refine List.ext_getElem (by simp [width]) fun i hi hi' => ?_
    have hkey : i < keys.length := by simpa using hi
    have hcell : i < cells.length := width ▸ hkey
    rw [List.getElem_map, List.getElem_zip, TextMap.getText, TextMap.get?_zip distinct cells hkey,
      List.getElem?_eq_getElem hcell, Option.getD_some]
  have hdistinct : ((keys.zip cells).map Prod.fst).Nodup := by
    rwa [List.map_fst_zip (by omega)]
  have hcolumns : ((named keys).filterMap fun c =>
      c.target.map fun key => (key, TextMap.getText ⟨keys.zip cells⟩ c.header)) =
      keys.map fun key => (key, TextMap.getText ⟨keys.zip cells⟩ key) := by
    simp [named, List.filterMap_map]
  rw [apply, hcolumns, hpairs, TextMap.ofPairs_eq hdistinct]

end Mapping

end SheetIntake
