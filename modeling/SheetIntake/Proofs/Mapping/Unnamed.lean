import SheetIntake.Proofs.Mapping.FirstClaim
import SheetIntake.Proofs.Mapping.NormalForm
import SheetIntake.Proofs.Table.Suffixes

/-! # Names of blank headers

    A column whose header is blank is named by its number, with a suffix if this name is taken.
    The normal form of such a name is `column` with digits behind it (`Header.IsNumbered`).  No
    field is called like that.  Nor does an alias occur in it: a block of such a text lies within
    `column`, or it is an end of `column` with digits behind it (`Text.infix_or_suffix`), and no
    alias is of either kind.  So the name matches nothing, whatever the numbers are
    (`Header.IsNumbered.match?_eq`), and a proposal skips the column (`Mapping.skips_propose`). -/

namespace SheetIntake

/-! ## Blocks of a text -/

namespace Text

theorem occursIn_iff {α : Type} [BEq α] [LawfulBEq α] {needle text : List α} :
    occursIn needle text = true ↔ needle <:+: text := by
  induction text with
  | nil => rw [occursIn, List.isEmpty_iff, List.infix_nil]
  | cons c cs ih =>
    rw [occursIn, Bool.or_eq_true, List.isPrefixOf_iff_prefix, ih, List.infix_cons_iff]

/-- A block of two parts, of which only the second is of one kind of characters, lies within the
first, or all of it that is not of this kind stands at the end of the first. -/
theorem infix_or_suffix {p : Char → Bool} {front tail block : List Char}
    (hfront : ∀ c ∈ front, p c = false) (htail : ∀ c ∈ tail, p c = true)
    (h : block <:+: front ++ tail) : block <:+: front ∨ block.rdropWhile p <:+ front := by
  rcases List.infix_append_iff.1 h with hinside | hbehind | ⟨left, right, rfl, hleft, hright⟩
  · exact .inl hinside
  · have hnone : block.rdropWhile p = [] :=
      List.rdropWhile_eq_nil_iff.2 fun c hc => htail c (hbehind.subset hc)
    rw [hnone]
    exact .inr List.nil_suffix
  · -- The block goes across the border, and what it has of the front is left of it.
    have hcut : ∀ c ∈ right.reverse, p c = true :=
      fun c hc => htail c (hright.subset (List.mem_reverse.1 hc))
    have hkept : left.rdropWhile p = left := by
      rw [List.rdropWhile_eq_self_iff]
      intro hne
      rw [hfront _ (hleft.subset (List.getLast_mem hne))]
      simp
    have hborder : (left ++ right).rdropWhile p = left := by
      rw [List.rdropWhile, List.reverse_append, List.dropWhile_append_of_pos hcut]
      exact hkept
    rw [hborder]
    exact .inr hleft

end Text

/-! ## Numbered columns -/

namespace Header

variable {mode : Mode} {header normal : String} {ds : List Char}

/-- The normal form of the header is `column` with digits behind it. -/
def IsNumbered (header : String) : Prop :=
  ∃ ds, (∀ c ∈ ds, c.isDigit = true) ∧ (normalForm header).toList = "column".toList ++ ds

theorem toList_normalForm_append (header other : String) :
    (normalForm (header ++ other)).toList =
      (normalForm header).toList ++ (normalForm other).toList := by
  simp only [toList_normalForm, String.toList_append, List.flatMap_append]

theorem isDigit_of_mem_repr {n : ℕ} {c : Char} (h : c ∈ n.repr.toList) : c.isDigit = true := by
  rw [Nat.toList_repr] at h
  exact Nat.isDigit_of_mem_toDigits (by decide) (by decide) h

/-- The digits of a number are kept as they are. -/
theorem toList_normalForm_repr (n : ℕ) : (normalForm n.repr).toList = n.repr.toList := by
  have hself : ∀ c ∈ n.repr.toList, plainLetters c = [c] := by
    intro c hc
    have hplain : isPlain c = true := by rw [isPlain, isDigit_of_mem_repr hc, Bool.or_true]
    exact plainLetters_of_isPlain hplain
  rw [toList_normalForm, List.flatMap_congr hself, List.flatMap_singleton']

theorem isNumbered_column (n : ℕ) : IsNumbered s!"Column {n}" := by
  have hcolumn : (normalForm "Column ").toList = "column".toList := by decide +kernel
  refine ⟨n.repr.toList, fun c => isDigit_of_mem_repr, ?_⟩
  show (normalForm ("Column " ++ n.repr)).toList = _
  rw [toList_normalForm_append, hcolumn, toList_normalForm_repr]

/-- A suffix adds nothing but digits. -/
theorem IsNumbered.suffix (h : IsNumbered header) (k : ℕ) : IsNumbered s!"{header}_{k}" := by
  obtain ⟨ds, digits, hnormal⟩ := h
  have hmark : (normalForm "_").toList = [] := by decide +kernel
  refine ⟨ds ++ k.repr.toList, ?_, ?_⟩
  · exact List.forall_mem_append.2 ⟨digits, fun c => isDigit_of_mem_repr⟩
  · show (normalForm (header ++ "_" ++ k.repr)).toList = _
    rw [toList_normalForm_append, toList_normalForm_append, hnormal, hmark,
      toList_normalForm_repr, List.append_nil, List.append_assoc]

/-- No field is called a column. -/
theorem byName?_numbered (hnormal : normal.toList = "column".toList ++ ds) :
    byName? mode.fields normal = none := by
  have hregistry : ∀ f ∈ mode.fields, ∀ name ∈ names f,
      ¬ "column".toList <+: normalChars name.toList := by
    cases mode <;> decide +kernel
  have hother : ∀ f ∈ mode.fields, ∀ name ∈ names f, normalForm name ≠ normal := by
    rintro f hf name hname rfl
    rw [normalForm_eq, String.toList_ofList] at hnormal
    exact hregistry f hf name hname ⟨ds, hnormal.symm⟩
  rw [byName?, Option.map_eq_none_iff, List.find?_eq_none]
  intro f hf
  have hkey := hother f hf f.key (List.mem_cons_self ..)
  have hlabel := hother f hf f.label (List.mem_cons_of_mem _ (List.mem_cons_self ..))
  simp [hkey, hlabel]

/-- No alias occurs in `column` with digits behind it. -/
theorem byAlias?_numbered (fields : List TargetField) (digits : ∀ c ∈ ds, c.isDigit = true)
    (hnormal : normal.toList = "column".toList ++ ds) : byAlias? fields normal = none := by
  have htable : ∀ entry ∈ aliases, ∀ word ∈ entry.2, ¬ word.toList <:+: "column".toList ∧
      ¬ word.toList.rdropWhile Char.isDigit <:+ "column".toList := by
    decide +kernel
  have hletters : ∀ c ∈ "column".toList, c.isDigit = false := by simp
  rw [byAlias?, Option.map_eq_none_iff, List.find?_eq_none]
  rintro ⟨key, words⟩ hentry hfound
  obtain ⟨word, hword, hoccurs⟩ := List.any_eq_true.1 (Bool.and_eq_true_iff.1 hfound).2
  rw [Text.contains, Text.occursIn_iff, hnormal] at hoccurs
  obtain ⟨hinside, hend⟩ := htable _ hentry word hword
  exact (Text.infix_or_suffix hletters digits hoccurs).elim hinside hend

theorem IsNumbered.match?_eq (h : IsNumbered header) (mode : Mode) :
    match? mode.fields header = none := by
  obtain ⟨ds, digits, hnormal⟩ := h
  unfold match?
  simp only [byName?_numbered hnormal, byAlias?_numbered mode.fields digits hnormal]
  exact ite_self none

end Header

/-- A column with a blank header cell is named by its number, with a suffix if need be. -/
theorem Naming.exists_number_of_blank {cells : List String} {i : ℕ} {cell : String}
    (hcell : cells[i]? = some cell) (blank : Text.isBlank cell = true) :
    ∃ header, (name cells)[i]? = some header ∧
      (header = s!"Column {i + 1}" ∨ ∃ k ≥ 1, header = s!"Column {i + 1}_{k}") := by
  obtain ⟨hi, rfl⟩ := List.getElem?_eq_some_iff.1 hcell
  have hi' : i < (name cells).length := by rwa [name, length_nameFrom]
  refine ⟨(name cells)[i], List.getElem?_eq_getElem hi', ?_⟩
  obtain ⟨k, -, hfree, -⟩ :=
    firstFree_eq_suffixed (((name cells).take i).reverse ++ []) (wanted (0 + i) cells[i])
  have hname : (name cells)[i] = suffixed (wanted (0 + i) cells[i]) k :=
    (getElem_nameFrom [] 0 cells hi hi').trans hfree
  rw [wanted_eq, if_pos blank, Nat.zero_add] at hname
  rcases Nat.eq_zero_or_pos k with rfl | hk
  · exact .inl hname
  · exact .inr ⟨k, hk, hname.trans (suffixed_of_pos hk _)⟩

/-! ## Skipped columns -/

namespace Mapping

variable {fields : List TargetField} {headers : List String} {header : String} {m m' : Mapping}

/-- No column of this name goes to a field. -/
def Skips (header : String) (m : Mapping) : Prop := ∀ c ∈ m, c.header = header → c.target = none

theorem skips_nil (header : String) : Skips header [] := by
  intro c hc
  cases hc

/-- A proposal skips what matches nothing. -/
theorem skips_propose (h : Header.match? fields header = none) :
    Skips header (propose fields headers) := by
  rintro c hc rfl
  obtain ⟨i, hi, rfl⟩ := List.getElem_of_mem hc
  have hcolumn : headers[i]? = some (propose fields headers)[i].header := by
    have hheaders : (propose fields headers).headers = headers := headers_proposeFrom ..
    conv_lhs => rw [← hheaders]
    rw [Mapping.headers, List.getElem?_map, List.getElem?_eq_getElem hi, Option.map_some]
  rw [Option.eq_none_iff_forall_ne_some]
  intro key hkey
  -- What goes to a field matches it.
  have hclaim := (targetAt_propose.1 (targetAt_eq_some.2 ⟨hi, hkey⟩)).1
  rw [matchAt, hcolumn, Option.bind_some, h] at hclaim
  cases hclaim

/-- The entry of a column that is skipped. -/
theorem Skips.getElem?_eq (h : m.Skips header) (columns : m.headers = headers) {i : ℕ}
    (hheader : headers[i]? = some header) : m[i]? = some ⟨header, none⟩ := by
  rw [← columns, Mapping.headers, List.getElem?_map, Option.map_eq_some_iff] at hheader
  obtain ⟨c, hc, rfl⟩ := hheader
  rw [hc, ← h c (List.mem_of_getElem? hc) rfl]

/-- An edit of one column sends no other one to a field. -/
theorem Skips.assign {column : String} {target : Option String} (h : m.Skips header)
    (hm : assign fields m column target = .ok m')
    (unmapped : column = header → (trimmedEntry ⟨column, target⟩).target = none) :
    m'.Skips header := by
  obtain ⟨-, index, hindex, rfl⟩ := assign_eq_ok.1 hm
  obtain ⟨hi, hcolumn, -⟩ := List.findIdx?_eq_some_iff_getElem.1 hindex
  have hcolumn : m[index].header = column := eq_of_beq hcolumn
  rintro c hc hheader
  obtain ⟨j, hj, rfl⟩ := List.getElem_of_mem hc
  simp only [setTarget, List.length_mapIdx] at hj
  simp only [setTarget, List.getElem_mapIdx] at hheader ⊢
  split at hheader
  · next hself =>
    subst hself
    rw [if_pos rfl]
    exact unmapped (hcolumn.symm.trans hheader)
  · next hother =>
    rw [if_neg hother]
    split at hheader
    · next hgiven => rw [if_pos hgiven]
    · next hgiven =>
      rw [if_neg hgiven]
      exact h _ (List.getElem_mem hj) hheader

theorem skips_replace {list : Mapping} (hm : replace fields headers list = .ok m')
    (unmapped : ∀ c ∈ list, c.header = header → (trimmedEntry c).target = none) :
    m'.Skips header := by
  obtain ⟨rfl, -⟩ := replace_eq_ok.1 hm
  rintro entry hentry hheader
  obtain ⟨c, hc, rfl⟩ := List.mem_map.1 hentry
  exact unmapped c hc hheader

end Mapping

end SheetIntake
