import Mathlib
import SheetIntake.Proofs.Text.Trim
import SheetIntake.Table.Naming

/-! # Column names are clean and distinct

    A column asks for its trimmed header, of which something is left, or for its number.  If the
    name is taken it gets the first free one of the suffixed forms.  These are all different
    (`suffixed_injective`), so of one more of them than there are taken names one is free
    (`firstFree_not_mem`), and no name is given twice (`nodup_name`). -/

namespace SheetIntake

namespace Naming

/-! ## The names that columns ask for -/

theorem clean_wanted (position : Nat) (cell : String) : Text.Clean (wanted position cell) := by
  unfold wanted
  cases h : Text.trimmed? cell with
  | some t => exact Text.clean_of_trimmed? h
  | none =>
    show Text.Clean ("Column " ++ (position + 1).repr)
    refine Text.clean_append_repr (by decide) (fun c hc => ?_) (position + 1)
    obtain rfl : 'C' = c := by simpa using hc
    decide

/-! ## Suffixed names -/

theorem suffixed_zero (base : String) : suffixed base 0 = base := rfl

theorem suffixed_succ (base : String) (k : Nat) :
    suffixed base (k + 1) = base ++ ("_" ++ (k + 1).repr) := by
  simp [suffixed, String.append_assoc, toString]

theorem suffixed_injective (base : String) : Function.Injective (suffixed base) := by
  intro j k h
  cases j with
  | zero =>
    cases k with
    | zero => rfl
    | succ k =>
      -- A suffix makes a name longer.
      rw [suffixed_zero, suffixed_succ] at h
      have := congrArg String.length h
      simp at this
  | succ j =>
    cases k with
    | zero =>
      rw [suffixed_zero, suffixed_succ] at h
      have := congrArg String.length h
      simp at this
    | succ k =>
      rw [suffixed_succ, suffixed_succ, String.append_right_inj, String.append_right_inj] at h
      exact Nat.repr_inj.1 h

theorem clean_suffixed {base : String} (h : Text.Clean base) (k : Nat) :
    Text.Clean (suffixed base k) := by
  cases k with
  | zero => exact h
  | succ k =>
    obtain ⟨hne, hends⟩ := Text.clean_iff.1 h
    rw [suffixed_succ, ← String.append_assoc]
    refine Text.clean_append_repr (by simp [hne]) (fun c hc => ?_) (k + 1)
    rw [String.toList_append, List.head?_append_of_ne_nil _ hne] at hc
    exact hends.front c hc

/-- Of more suffixed names than there are taken ones, one is free. -/
theorem exists_suffixed_not_mem (taken : List String) (base : String) :
    ∃ k ∈ List.range (taken.length + 1), suffixed base k ∉ taken := by
  by_contra hall
  have hsub : (List.range (taken.length + 1)).map (suffixed base) ⊆ taken := by
    intro name hname
    obtain ⟨k, hk, rfl⟩ := List.mem_map.1 hname
    by_contra hfree
    exact hall ⟨k, hk, hfree⟩
  have hnodup : ((List.range (taken.length + 1)).map (suffixed base)).Nodup :=
    List.nodup_range.map (suffixed_injective base)
  have hle := (List.subperm_of_subset hnodup hsub).length_le
  simp only [List.length_map, List.length_range] at hle
  omega

/-- The suffixes have a least one that is free, and it is no greater than the number of taken
names. -/
theorem exists_least_suffixed (taken : List String) (base : String) :
    ∃ k ≤ taken.length, suffixed base k ∉ taken ∧ ∀ j < k, suffixed base j ∈ taken := by
  obtain ⟨k, hk, hfree⟩ := exists_suffixed_not_mem taken base
  have hfound : ∃ k, suffixed base k ∉ taken := ⟨k, hfree⟩
  refine ⟨Nat.find hfound, ?_, Nat.find_spec hfound, fun j hj => ?_⟩
  · have hleast := Nat.find_min' hfound hfree
    rw [List.mem_range] at hk
    omega
  · exact not_not.1 (Nat.find_min hfound hj)

/-- The first free name is the suffixed form with the least suffix that is free. -/
theorem firstFree_eq_suffixed (taken : List String) (base : String) :
    ∃ k ≤ taken.length, firstFree taken base = suffixed base k ∧ suffixed base k ∉ taken ∧
      ∀ j < k, suffixed base j ∈ taken := by
  obtain ⟨k, hk, hfree, hbefore⟩ := exists_least_suffixed taken base
  refine ⟨k, hk, ?_, hfree, hbefore⟩
  -- The candidates before this one are skipped, and it is the next to be looked at.
  have hsplit : taken.length + 1 = k + (taken.length - k + 1) := by omega
  have hskipped : ((List.range k).findSome? fun j =>
      if taken.contains (suffixed base j) then none else some (suffixed base j)) = none := by
    refine List.findSome?_eq_none_iff.2 fun j hj => ?_
    rw [if_pos (List.contains_iff_mem.2 (hbefore j (List.mem_range.1 hj)))]
  unfold firstFree
  dsimp only
  rw [hsplit, List.range_add, List.findSome?_append, hskipped, List.range_succ_eq_map]
  simp [hfree]

theorem firstFree_not_mem (taken : List String) (base : String) :
    firstFree taken base ∉ taken := by
  obtain ⟨k, -, heq, hfree, -⟩ := firstFree_eq_suffixed taken base
  rwa [heq]

theorem clean_firstFree (taken : List String) {base : String} (h : Text.Clean base) :
    Text.Clean (firstFree taken base) := by
  obtain ⟨k, -, heq, -⟩ := firstFree_eq_suffixed taken base
  rw [heq]
  exact clean_suffixed h k

/-- A name that nobody has taken is given as it is. -/
theorem firstFree_eq_self {taken : List String} {base : String} (h : base ∉ taken) :
    firstFree taken base = base := by
  simp [firstFree, List.range_succ_eq_map, suffixed_zero, h]

/-! ## The names of all columns -/

@[simp] theorem length_nameFrom (taken : List String) (position : Nat) (cells : List String) :
    (nameFrom taken position cells).length = cells.length := by
  induction cells generalizing taken position with
  | nil => rfl
  | cons cell cells ih => simp [nameFrom, ih]

/-- The names are new, and no two are the same. -/
theorem nodup_nameFrom (taken : List String) (position : Nat) (cells : List String) :
    (nameFrom taken position cells).Nodup ∧
      ∀ name ∈ nameFrom taken position cells, name ∉ taken := by
  -- Every name is added to the taken ones before the next is given.
  induction cells generalizing taken position with
  | nil => simp [nameFrom]
  | cons cell cells ih =>
    have hfree := firstFree_not_mem taken (wanted position cell)
    obtain ⟨hnodup, hnew⟩ := ih (firstFree taken (wanted position cell) :: taken) (position + 1)
    simp only [nameFrom]
    refine ⟨List.nodup_cons.2 ⟨fun hmem => ?_, hnodup⟩, ?_⟩
    · exact hnew _ hmem (List.mem_cons_self ..)
    · intro name hname
      rcases List.mem_cons.1 hname with rfl | hlater
      · exact hfree
      · exact fun htaken => hnew name hlater (List.mem_cons_of_mem _ htaken)

theorem nodup_name (cells : List String) : (name cells).Nodup :=
  (nodup_nameFrom [] 0 cells).1

theorem clean_of_mem_nameFrom {taken : List String} {position : Nat} {cells : List String}
    {header : String} (h : header ∈ nameFrom taken position cells) : Text.Clean header := by
  induction cells generalizing taken position with
  | nil => cases h
  | cons cell cells ih =>
    rcases List.mem_cons.1 h with rfl | hlater
    · exact clean_firstFree taken (clean_wanted position cell)
    · exact ih hlater

/-- Clean cells that differ from each other, and from the taken names, are names as they are. -/
theorem nameFrom_eq_self {taken : List String} {position : Nat} {cells : List String}
    (clean : ∀ cell ∈ cells, Text.Clean cell) (distinct : cells.Nodup)
    (free : ∀ cell ∈ cells, cell ∉ taken) : nameFrom taken position cells = cells := by
  induction cells generalizing taken position with
  | nil => rfl
  | cons cell cells ih =>
    obtain ⟨hcell, hcells⟩ := List.forall_mem_cons.1 clean
    obtain ⟨hnew, hdistinct⟩ := List.nodup_cons.1 distinct
    obtain ⟨hfree, hlater⟩ := List.forall_mem_cons.1 free
    have hwanted : wanted position cell = cell := by rw [wanted, hcell.trimmed?_eq]; rfl
    have hname : firstFree taken (wanted position cell) = cell := by
      rw [hwanted, firstFree_eq_self hfree]
    have hrest : ∀ c ∈ cells, c ∉ cell :: taken := by
      intro c hc hmem
      rcases List.mem_cons.1 hmem with rfl | htaken
      · exact hnew hc
      · exact hlater c hc htaken
    simp only [nameFrom, hname, ih hcells hdistinct hrest]

theorem name_eq_self {cells : List String} (clean : ∀ cell ∈ cells, Text.Clean cell)
    (distinct : cells.Nodup) : name cells = cells :=
  nameFrom_eq_self clean distinct (by simp)

end Naming

end SheetIntake
