import SheetIntake.Proofs.Table.Naming

/-! # The search for a free name

    A column whose name is taken tries the suffixes `_1`, `_2`, … one after the other until a
    candidate is free.  The search itself has no bound (`Search`).  It ends all the same, as every
    candidate that fails is another one of the earlier names: with `i` of these, the first free
    one is found among `i + 1` candidates (`search_firstFree`), and it has the least suffix that is
    free (`Search.least`).  This says of every column what it is named (`named_by_least_suffix`).
    The names are clean and distinct, so naming the columns once more changes nothing. -/

namespace SheetIntake.Naming

/-! ## Searching -/

/-- A search that has come to the suffix `k`.  It goes on until a candidate is free: `tried` are
the candidates that it looks at from here on, and `name` is the one that it ends with. -/
inductive Search (taken : List String) (base : String) : Nat → List String → String → Prop where
  | done {k : Nat} (free : suffixed base k ∉ taken) :
      Search taken base k [suffixed base k] (suffixed base k)
  | next {k : Nat} {tried : List String} {name : String} (collides : suffixed base k ∈ taken)
      (rest : Search taken base (k + 1) tried name) :
      Search taken base k (suffixed base k :: tried) name

section
variable {taken tried : List String} {base name : String}

/-- A search ends if a suffix is free, and looks at nothing behind the first free one. -/
theorem exists_search {n : Nat} :
    ∀ {k : Nat}, suffixed base (k + n) ∉ taken →
      (∀ j, k ≤ j → j < k + n → suffixed base j ∈ taken) →
      ∃ tried, Search taken base k tried (suffixed base (k + n)) ∧ tried.length = n + 1 := by
  -- The induction is on the number of candidates that will fail.
  induction n with
  | zero =>
    intro k hfree _
    exact ⟨_, .done hfree, rfl⟩
  | succ n ih =>
    intro k hfree hbefore
    have hlast : k + (n + 1) = k + 1 + n := by omega
    rw [hlast] at hfree hbefore ⊢
    obtain ⟨tried, hsearch, hlength⟩ := ih hfree fun j hj hlt => hbefore j (by omega) hlt
    have hcollides : suffixed base k ∈ taken := hbefore k le_rfl (by omega)
    exact ⟨_, .next hcollides hsearch, by rw [List.length_cons, hlength]⟩

/-- A search ends with the least free suffix that it has not passed. -/
theorem Search.least {k : Nat} (h : Search taken base k tried name) :
    ∃ n, name = suffixed base n ∧ k ≤ n ∧ suffixed base n ∉ taken ∧
      ∀ j, k ≤ j → j < n → suffixed base j ∈ taken := by
  induction h with
  | done hfree => exact ⟨_, rfl, le_rfl, hfree, fun j hj hlt => absurd hj (by omega)⟩
  | next hcollides _ ih =>
    obtain ⟨n, hname, hle, hfree, hbefore⟩ := ih
    refine ⟨n, hname, by omega, hfree, fun j hj hlt => ?_⟩
    -- The suffix is the one that has just failed, or one of those that the rest has passed.
    rcases Nat.eq_or_lt_of_le hj with rfl | hlater
    · exact hcollides
    · exact hbefore j hlater hlt

/-- A search has one course: at every suffix it either ends or goes on. -/
theorem Search.unique {k : Nat} {tried' : List String} {name' : String}
    (h : Search taken base k tried name) (h' : Search taken base k tried' name') :
    tried = tried' ∧ name = name' := by
  induction h generalizing tried' with
  | done hfree =>
    cases h' with
    | done => exact ⟨rfl, rfl⟩
    | next hcollides => exact absurd hcollides hfree
  | next hcollides _ ih =>
    cases h' with
    | done hfree => exact absurd hcollides hfree
    | next _ hrest =>
      obtain ⟨rfl, rfl⟩ := ih hrest
      exact ⟨rfl, rfl⟩

end

/-- The first free name is what the search ends with, after at most one candidate more than there
are taken names. -/
theorem search_firstFree (taken : List String) (base : String) :
    ∃ tried, Search taken base 0 tried (firstFree taken base) ∧
      tried.length ≤ taken.length + 1 := by
  obtain ⟨k, hk, hname, hfree, hbefore⟩ := firstFree_eq_suffixed taken base
  rw [← Nat.zero_add k] at hfree hbefore hname
  obtain ⟨tried, hsearch, hlength⟩ :=
    exists_search hfree fun j _ hj => hbefore j hj
  rw [hname]
  exact ⟨tried, hsearch, by omega⟩

/-- Only which names are taken matters to a search, not their order. -/
theorem Search.of_mem_iff {taken taken' tried : List String} {base name : String} {k : Nat}
    (h : Search taken base k tried name) (same : ∀ s, s ∈ taken ↔ s ∈ taken') :
    Search taken' base k tried name := by
  induction h with
  | done hfree => exact .done fun hmem => hfree ((same _).2 hmem)
  | next hcollides _ ih => exact .next ((same _).1 hcollides) ih

/-! ## Columns -/

/-- The name of a column is searched for among the names of the columns before it. -/
theorem getElem_nameFrom (taken : List String) (position : Nat) (cells : List String) {i : Nat}
    (hi : i < cells.length) (hi' : i < (nameFrom taken position cells).length) :
    (nameFrom taken position cells)[i] =
      firstFree (((nameFrom taken position cells).take i).reverse ++ taken)
        (wanted (position + i) cells[i]) := by
  -- The names that have been given are added to the taken ones, the last one in front.
  induction cells generalizing taken position i with
  | nil => cases hi
  | cons cell cells ih =>
    cases i with
    | zero => rfl
    | succ i =>
      have hlt : i < cells.length := Nat.lt_of_succ_lt_succ hi
      have hposition : position + (i + 1) = position + 1 + i := by omega
      simp only [nameFrom, List.getElem_cons_succ, List.take_succ_cons, List.reverse_cons,
        List.append_assoc, List.singleton_append, hposition]
      exact ih _ _ hlt (Nat.lt_of_succ_lt_succ hi')

/-- What the column at a position is named, when the columns before it have the names
`earlier`. -/
structure Names (earlier : List String) (position : Nat) (cell name : String) : Prop where
  /-- The column asks for its trimmed header, or for its number if the header is blank. -/
  asks : wanted position cell =
    if Text.isBlank cell then s!"Column {position + 1}" else Text.trim cell
  /-- The search for a free form of this ends, after few candidates, and it ends with the name. -/
  ends : ∃ tried, Search earlier (wanted position cell) 0 tried name ∧
    tried.length ≤ position + 1
  /-- There is no other way for it to end. -/
  only : ∀ tried other, Search earlier (wanted position cell) 0 tried other → other = name
  /-- What no earlier column is named is given as it is. -/
  plain : wanted position cell ∉ earlier → name = wanted position cell
  /-- Else it is given with the least suffix that makes it new. -/
  suffix : wanted position cell ∈ earlier →
    ∃ k ≥ 1, name = s!"{wanted position cell}_{k}" ∧ name ∉ earlier ∧
      ∀ j ≥ 1, j < k → s!"{wanted position cell}_{j}" ∈ earlier

theorem wanted_eq (position : Nat) (cell : String) :
    wanted position cell =
      if Text.isBlank cell then s!"Column {position + 1}" else Text.trim cell := by
  rw [wanted, Text.trimmed?]
  split
  · rfl
  · rfl

theorem suffixed_of_pos {k : Nat} (hk : 1 ≤ k) (base : String) :
    suffixed base k = s!"{base}_{k}" :=
  if_neg (by omega)

theorem names_of_search {earlier tried : List String} {position : Nat} {cell name : String}
    (h : Search earlier (wanted position cell) 0 tried name)
    (hlength : tried.length ≤ position + 1) : Names earlier position cell name := by
  obtain ⟨k, rfl, -, hfree, hbefore⟩ := h.least
  constructor
  case asks => exact wanted_eq position cell
  case ends => exact ⟨tried, h, hlength⟩
  case only =>
    intro _ other hother
    exact (h.unique hother).2.symm
  case plain =>
    intro hnew
    -- The search ends at once.
    exact (h.unique (.done hnew)).2
  case suffix =>
    intro htaken
    have hk : 1 ≤ k := by
      rcases Nat.eq_zero_or_pos k with rfl | hpos
      · exact absurd htaken hfree
      · exact hpos
    refine ⟨k, hk, suffixed_of_pos hk _, hfree, fun j hj hlt => ?_⟩
    rw [← suffixed_of_pos hj]
    exact hbefore j (Nat.zero_le j) hlt

/-- The names of all columns. -/
structure NamedBySuffix (cells names : List String) : Prop where
  width : names.length = cells.length
  /-- Every column is named after the columns before it. -/
  each : ∀ i (hi : i < cells.length) (hi' : i < names.length),
    Names (names.take i) i cells[i] names[i]
  /-- To name the columns after their names is to leave them as they are. -/
  stable : name names = names

/-- Whatever the header cells are, each column gets the least suffix that makes its name new. -/
theorem named_by_least_suffix (cells : List String) : NamedBySuffix cells (name cells) := by
  constructor
  case width => exact length_nameFrom ..
  case each =>
    intro i hi hi'
    obtain ⟨tried, hsearch, hlength⟩ :=
      search_firstFree (((name cells).take i).reverse ++ []) (wanted (0 + i) cells[i])
    have hname : (name cells)[i] =
        firstFree (((name cells).take i).reverse ++ []) (wanted (0 + i) cells[i]) :=
      getElem_nameFrom [] 0 cells hi hi'
    rw [← hname] at hsearch
    rw [List.append_nil] at hsearch hlength
    rw [Nat.zero_add] at hsearch
    rw [List.length_reverse, List.length_take_of_le hi'.le] at hlength
    have hearlier := hsearch.of_mem_iff fun s => List.mem_reverse
    exact names_of_search hearlier hlength
  case stable =>
    have hclean : ∀ header ∈ name cells, Text.Clean header := fun _ => clean_of_mem_nameFrom
    exact name_eq_self hclean (nodup_name cells)

/-- The suffix that a repeated name would get may be the literal name of an earlier column. -/
example : name ["Name_1", "Name", "", "Name", "Column 3"] =
    ["Name_1", "Name", "Column 3", "Name_2", "Column 3_1"] := by
  decide

end SheetIntake.Naming
